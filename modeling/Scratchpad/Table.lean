/-!
# Tables

A table gives each key at most one value. Putting a value for a key that is there already replaces
it, and the keys keep the order in which they came.
-/

namespace Scratchpad

/-- Keys with their values. -/
abbrev Table := List (String × String)

namespace Table

/-- The value of a key. -/
def get? (key : String) : Table → Option String
  | [] => none
  | (k, v) :: t => if k = key then some v else get? key t

/-- The table with `value` for `key`. -/
def put (key value : String) : Table → Table
  | [] => [(key, value)]
  | (k, v) :: t => if k = key then (key, value) :: t else (k, v) :: put key value t

/-- The table with each of the given assignments put, in order. -/
def putAll (assignments : List (String × String)) (t : Table) : Table :=
  assignments.foldl (fun t a => put a.1 a.2 t) t

@[simp] theorem get?_nil (key : String) : get? key [] = none := rfl

/-- A value that was put is the value of its key, and the other keys keep theirs. -/
theorem get?_put (key other value : String) (t : Table) :
    get? other (put key value t) = if other = key then some value else get? other t := by
  induction t with
  | nil => simp [put, get?, eq_comm]
  | cons kv t ih =>
    obtain ⟨k, v⟩ := kv
    by_cases hk : k = key <;> by_cases ho : other = key <;> by_cases hko : k = other <;>
      simp_all [put, get?]

@[simp] theorem putAll_nil (t : Table) : putAll [] t = t := rfl

@[simp] theorem putAll_cons (a : String × String) (as : List (String × String)) (t : Table) :
    putAll (a :: as) t = putAll as (put a.1 a.2 t) := rfl

theorem putAll_append (as bs : List (String × String)) (t : Table) :
    putAll (as ++ bs) t = putAll bs (putAll as t) := by
  simp [putAll]

end Table

end Scratchpad
