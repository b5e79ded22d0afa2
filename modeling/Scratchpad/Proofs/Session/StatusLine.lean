import Mathlib.Data.List.Induction
import Scratchpad.Proofs.Session.Change
import Scratchpad.Proofs.Text.Pieces

/-!
# What the status line quotes

The status line quotes the exit code of a result that is an error. It is written when a result comes
in, and when the result is cleared it stays as it is. So what it quotes is the result that came in
last (`Session.Recalls`), which may be gone.

One event only leaves a quotation behind without its result: the key that clears the result, in a
session whose status line quotes it (`Session.Forgets`). The main statement, `quotes_afterAll`, says
both.
-/

namespace Scratchpad

open Scratchpad.Execution Scratchpad.Interpreter

/-! ### The text of the status line -/

namespace Status

/-- The status line tells that a run ended with an exit code. -/
def Quotes (status : Status) (n : Int) : Prop :=
  ("Exit code " ++ toString n ++ " | ").toList <+: status.message.toList

theorem isDigit_of_mem_repr {n : Nat} {c : Char} (h : c ∈ n.repr.toList) : c.isDigit = true := by
  rw [Nat.toList_repr] at h
  exact Nat.isDigit_of_mem_toDigits (by decide) (by decide) h

theorem space_not_mem_toString (n : Int) : ' ' ∉ (toString n).toList := by
  have hdigits : ∀ m : Nat, ' ' ∉ m.repr.toList :=
    fun m hmem => absurd (isDigit_of_mem_repr hmem) (by decide)
  rw [Int.toString_eq_repr, Int.repr_eq_if]
  split
  · exact hdigits _
  · rw [String.toList_append, List.mem_append, not_or]
    exact ⟨by decide, hdigits _⟩

/-- The digits of a number are read back as that number. -/
theorem eq_of_repr_eq {m n : Nat} (h : m.repr = n.repr) : m = n := by
  have hread : Nat.ofDigitChars 10 m.repr.toList 0 = Nat.ofDigitChars 10 n.repr.toList 0 := by
    rw [h]
  simpa only [Nat.toList_repr, Nat.ofDigitChars_ten_toDigits] using hread

theorem eq_of_toString_eq {m n : Int} (h : toString m = toString n) : m = n := by
  -- a minus sign is no digit, so the numbers have the same sign
  have hsign : ∀ k l : Nat, k.repr ≠ "-" ++ l.repr := by
    intro k l heq
    have hmem : '-' ∈ k.repr.toList := by
      rw [heq, String.toList_append]
      exact List.mem_append_left _ (by decide)
    exact absurd (isDigit_of_mem_repr hmem) (by decide)
  cases m with
  | ofNat m =>
    cases n with
    | ofNat n => exact congrArg Int.ofNat (eq_of_repr_eq h)
    | negSucc n => exact absurd h (hsign m (n + 1))
  | negSucc m =>
    cases n with
    | ofNat n => exact absurd h.symm (hsign n (m + 1))
    | negSucc n =>
      have hrepr : (m + 1).repr = (n + 1).repr := (String.append_right_inj "-").1 h
      exact congrArg Int.negSucc (Nat.succ.inj (eq_of_repr_eq hrepr))

/-- A number in front of a space can be read off a text. -/
theorem eq_of_toString_append {m n : Int} {as bs : List Char}
    (h : (toString m).toList ++ ' ' :: as = (toString n).toList ++ ' ' :: bs) : m = n := by
  have hm : Text.cutAt? ' ' ((toString m).toList ++ ' ' :: as) = some ((toString m).toList, as) :=
    Text.cutAt?_eq_some_iff.2 ⟨rfl, space_not_mem_toString m⟩
  have hn : Text.cutAt? ' ' ((toString m).toList ++ ' ' :: as) = some ((toString n).toList, bs) :=
    Text.cutAt?_eq_some_iff.2 ⟨h, space_not_mem_toString n⟩
  have heq := (Prod.mk.inj (Option.some.inj (hm.symm.trans hn))).1
  exact eq_of_toString_eq (String.toList_inj.1 heq)

theorem quotes_iff {status : Status} {n : Int} : status.Quotes n ↔ status = .failed n := by
  constructor
  · intro h
    have hexit : "Exit code ".toList <+: status.message.toList := by
      refine List.IsPrefix.trans ?_ h
      rw [String.toList_append, String.toList_append, List.append_assoc]
      exact List.prefix_append _ _
    cases status with
    | failed m =>
      obtain ⟨rest, hrest⟩ := h
      simp only [message, String.toList_append, List.append_assoc,
        List.append_cancel_left_eq] at hrest
      have hcodes : (toString n).toList ++ ' ' :: ("| ".toList ++ rest) =
          (toString m).toList ++ ' ' :: "| ctrl+r execute | F1 help".toList := hrest
      rw [eq_of_toString_append hcodes]
    | _ => exact absurd hexit (by decide)
  · rintro rfl
    refine ⟨"ctrl+r execute | F1 help".toList, ?_⟩
    rw [← String.toList_append, message, String.append_assoc]
    rfl

end Status

/-- The last result that some events bring. -/
def lastResult? (es : List Event) : Option Result := es.reverse.findSome? Event.result?

theorem lastResult?_cons (e : Event) (es : List Event) :
    lastResult? (e :: es) = (lastResult? es).or e.result? := by
  rw [lastResult?, lastResult?, List.reverse_cons, List.findSome?_append]
  cases h : e.result? <;> simp [h]

namespace Session

/-- Every exit code in the status line is that of the result, which is an error. -/
def QuotesResult (s : Session) : Prop :=
  ∀ n, s.status.Quotes n → ∃ r, s.result = some r ∧ r.isError = true ∧ r.exitCode = n

/-- The status line quotes a result that is not there. -/
def IsStale (s : Session) : Prop := s.result = none ∧ ∃ n, s.status = .failed n

/-- The key that clears the result reaches a session whose status line quotes it. -/
structure Forgets (s : Session) (e : Event) : Prop where
  key : e = .key ⟨.char 'l', true⟩
  hidden : s.showsHelp = false
  quotes : ∃ n, s.status.Quotes n

/-- The result of a session, and the one that its status line quotes, is a given one, or there is
none. -/
structure Recalls (s : Session) (last : Option Result) : Prop where
  result : ∀ r, s.result = some r → last = some r
  failed : ∀ n, s.status = .failed n → s.discovery = .ready ∧ s.isExecuting = false ∧
    ∃ r, last = some r ∧ r.isError = true ∧ r.exitCode = n
  ready : s.isExecuting = true → s.discovery = .ready

variable {s s' : Session} {last : Option Result} {e : Event}

theorem usualStatus_eq_failed_iff {n : Int} :
    s.usualStatus = .failed n ↔
      s.discovery = .ready ∧ ∃ r, s.result = some r ∧ r.isError = true ∧ r.exitCode = n := by
  constructor
  · intro h
    rw [usualStatus] at h
    split at h
    · exact absurd h (by simp)
    · exact absurd h (by simp)
    · next r hready hresult =>
      split at h
      · next herror => exact ⟨hready, r, hresult, herror, Status.failed.inj h⟩
      · exact absurd h (by simp)
    · exact absurd h (by simp)
  · rintro ⟨hready, r, hresult, herror, rfl⟩
    simp [usualStatus, hready, hresult, herror]

/-- A result that comes in is quoted exactly if it is an error and there is an interpreter. -/
theorem quotes_finishExecution_iff {result : Result} {n : Int} :
    (s.finishExecution result).status.Quotes n ↔
      s.discovery = .ready ∧ result.isError = true ∧ result.exitCode = n := by
  rw [Status.quotes_iff, finishExecution, withUsualStatus, usualStatus_eq_failed_iff]
  simp

/-! ### The result that is quoted -/

/-- What writes no quotation and brings no result keeps what is recalled. -/
theorem Recalls.keep (h : s.Recalls last) (hdiscovery : s'.discovery = s.discovery)
    (hexec : s'.isExecuting = s.isExecuting) (hresult : ∀ r, s'.result = some r → s.result = some r)
    (hstatus : ∀ n, s'.status = .failed n → s.status = .failed n) : s'.Recalls last := by
  refine ⟨fun r hr => h.result r (hresult r hr), ?_, ?_⟩
  · rw [hdiscovery, hexec]
    exact fun n hn => h.failed n (hstatus n hn)
  · rw [hdiscovery, hexec]
    exact h.ready

theorem Recalls.beginExecution (h : s.Recalls last) : s.beginExecution.1.Recalls last := by
  have hanswer := answer_beginExecution s
  generalize s.beginExecution = answer at hanswer ⊢
  cases hanswer with
  | running busy => exact h.keep rfl rfl (fun _ => id) (by simp [withStatus])
  | unready idle missing => exact h.keep rfl rfl (fun _ => id) (by simp [withStatus])
  | blank idle found blank => exact h.keep rfl rfl (fun _ => id) (by simp [withStatus])
  | began idle found holds =>
    obtain ⟨hready, -⟩ := readyService?_eq_some found
    exact ⟨by simp, by simp, fun _ => hready⟩

theorem Recalls.clearResult (h : s.Recalls last) : s.clearResult.Recalls last := by
  rw [Session.clearResult]
  split
  · exact h
  · exact h.keep rfl rfl (by simp) (fun _ => id)

theorem Recalls.perform (h : s.Recalls last) (a : Action) : (s.perform a).1.Recalls last := by
  cases a with
  | execute =>
    rw [Session.perform, fst_execute]
    exact h.beginExecution
  | clear => exact h.clearResult
  | edit e => exact h.keep rfl rfl (fun _ => id) (fun _ => id)
  | scrollUp => exact h.keep rfl rfl (fun _ => id) (fun _ => id)
  | scrollDown => exact h.keep rfl rfl (fun _ => id) (fun _ => id)
  | nothing => exact h

theorem Recalls.finishDiscovery (h : s.Recalls last) (handle : Option Handle) :
    (s.finishDiscovery handle).Recalls last := by
  rw [Session.finishDiscovery]
  split
  · next hpending =>
    have hidle : s.isExecuting ≠ true := fun hrun => absurd (h.ready hrun) (by simp [hpending])
    refine ⟨h.result, ?_, fun hrun => absurd hrun hidle⟩
    intro n hn
    obtain ⟨hready, r, hr, herror, hcode⟩ := usualStatus_eq_failed_iff.1 hn
    exact ⟨hready, Bool.eq_false_iff.2 hidle, r, h.result r hr, herror, hcode⟩
  · exact h

theorem recalls_finishExecution (s : Session) (result : Result) :
    (s.finishExecution result).Recalls (some result) := by
  refine ⟨fun r hr => hr, ?_, by simp [finishExecution, withUsualStatus]⟩
  intro n hn
  obtain ⟨hready, r, hr, herror, hcode⟩ := usualStatus_eq_failed_iff.1 hn
  exact ⟨hready, rfl, r, hr, herror, hcode⟩

/-- An event keeps what is recalled, unless it brings a result, which then takes its place. -/
theorem Recalls.after (h : s.Recalls last) (e : Event) :
    (s.after e).Recalls (e.result?.or last) := by
  cases e with
  | key k =>
    rw [after_key]
    split
    · exact h.keep rfl rfl (fun _ => id) (fun _ => id)
    · split
      · exact h
      · exact h.perform (actionOf k)
  | paste text =>
    simp only [Session.after, handle]
    split
    · exact h.keep rfl rfl (fun _ => id) (fun _ => id)
    · exact h
  | tick => exact h.keep rfl rfl (fun _ => id) (fun _ => id)
  | discovered handle => exact h.finishDiscovery handle
  | executed result => exact recalls_finishExecution s result

theorem Recalls.afterAll (h : s.Recalls last) (es : List Event) :
    (s.afterAll es).Recalls ((lastResult? es).or last) := by
  induction es generalizing s last with
  | nil => exact h
  | cons e es ih =>
    rw [afterAll_cons, lastResult?_cons, Option.or_assoc]
    exact ih (h.after e)

theorem recalls_afterAll_start (source : String) (searched : List String) (es : List Event) :
    ((start source searched).afterAll es).Recalls (lastResult? es) := by
  have hstart : (start source searched).Recalls none :=
    ⟨by simp [start], by simp [start], by simp [start]⟩
  simpa using hstart.afterAll es

theorem Recalls.quotesResult_iff (h : s.Recalls last) : s.QuotesResult ↔ ¬ s.IsStale := by
  constructor
  · rintro hquotes ⟨hnone, n, hn⟩
    obtain ⟨r, hr, -⟩ := hquotes n (Status.quotes_iff.2 hn)
    exact absurd (hnone.symm.trans hr) (Option.some_ne_none r).symm
  · intro hfresh n hn
    have hfailed := Status.quotes_iff.1 hn
    obtain ⟨-, -, r, hlast, herror, hcode⟩ := h.failed n hfailed
    cases hr : s.result with
    | none => exact absurd ⟨hr, n, hfailed⟩ hfresh
    | some r' =>
      obtain rfl := Option.some.inj ((h.result r' hr).symm.trans hlast)
      exact ⟨r', rfl, herror, hcode⟩

/-! ### The event that forgets -/

theorem eq_of_actionOf_eq_clear {k : KeyPress} (h : actionOf k = .clear) :
    k = ⟨.char 'l', true⟩ := by
  obtain ⟨key, control⟩ := k
  cases key with
  | char c =>
    simp only [actionOf] at h
    split at h
    · next hcontrol =>
      split at h
      · cases h
      · split at h
        · next hc => rw [hc, hcontrol]
        · cases h
    · cases h
  | function n =>
    simp only [actionOf] at h
    split at h <;> cases h
  | _ => cases h

theorem not_isStale_start (source : String) (searched : List String) :
    ¬ (start source searched).IsStale := by
  rintro ⟨-, n, hn⟩
  cases hn

theorem not_isStale_beginExecution (s : Session) : ¬ s.beginExecution.1.IsStale := by
  rintro ⟨-, n, hn⟩
  have hanswer := answer_beginExecution s
  generalize s.beginExecution = answer at hanswer hn
  cases hanswer <;> cases hn

theorem clear_of_isStale_perform {a : Action} (h : ¬ s.IsStale) (hstale : (s.perform a).1.IsStale) :
    a = .clear ∧ ∃ n, s.status = .failed n := by
  cases a with
  | execute =>
    rw [perform, fst_execute] at hstale
    exact absurd hstale (not_isStale_beginExecution s)
  | clear =>
    rw [perform, clearResult] at hstale
    split at hstale
    · exact absurd hstale h
    · exact ⟨rfl, hstale.2⟩
  | edit e => exact absurd hstale h
  | scrollUp => exact absurd hstale h
  | scrollDown => exact absurd hstale h
  | nothing => exact absurd hstale h

theorem forgets_of_isStale_after (h : ¬ s.IsStale) (hstale : (s.after e).IsStale) :
    s.Forgets e := by
  cases e with
  | key k =>
    rw [after_key] at hstale
    split at hstale
    · exact absurd hstale h
    · split at hstale
      · exact absurd hstale h
      · next hopen =>
        obtain ⟨hclear, n, hn⟩ := clear_of_isStale_perform h hstale
        rw [eq_of_actionOf_eq_clear hclear]
        have hhidden : s.showsHelp = false := Bool.eq_false_iff.2 fun hshown => hopen (.inl hshown)
        exact ⟨rfl, hhidden, n, Status.quotes_iff.2 hn⟩
  | paste text =>
    simp only [after, handle] at hstale
    split at hstale <;> exact absurd hstale h
  | tick => exact absurd hstale h
  | discovered handle =>
    simp only [after, Session.handle, finishDiscovery] at hstale
    split at hstale
    · obtain ⟨hnone, n, hn⟩ := hstale
      obtain ⟨-, r, hr, -⟩ := usualStatus_eq_failed_iff.1 hn
      exact absurd (hnone.symm.trans hr) (Option.some_ne_none r).symm
    · exact absurd hstale h
  | executed result => exact absurd hstale.1 (Option.some_ne_none result)

theorem Recalls.isStale_after (h : s.Recalls last) (hforgets : s.Forgets e) :
    (s.after e).IsStale := by
  obtain ⟨rfl, hhidden, n, hn⟩ := hforgets
  have hfailed := Status.quotes_iff.1 hn
  obtain ⟨hready, hidle, -⟩ := h.failed n hfailed
  have hturn : (⟨.char 'l', true⟩ : KeyPress).togglesHelp s.showsHelp = false := by
    rw [hhidden]
    rfl
  have hopen : ¬ (s.showsHelp = true ∨ s.discovery ≠ .ready) := by simp [hhidden, hready]
  have hclear : (s.perform .clear).1 = { s with result := none, scroll := 0 } :=
    if_neg (by simp [hidle])
  rw [after_key, hturn, if_neg Bool.false_ne_true, if_neg hopen]
  exact hclear ▸ ⟨rfl, n, hfailed⟩

/-- After any events, an exit code in the status line is that of the result that came in last, an
error, and the session holds this result or none. A result that comes in is quoted exactly if it is
an error and there is an interpreter. And at all times the exit codes in the status line are those
of the result that the session holds, exactly if the key that clears the result never comes while
the status line quotes one. -/
theorem quotes_afterAll (source : String) (searched : List String) (es : List Event) :
    (∀ n, ((start source searched).afterAll es).status.Quotes n →
      ∃ r, lastResult? es = some r ∧ r.isError = true ∧ r.exitCode = n ∧
        (((start source searched).afterAll es).result = some r ∨
          ((start source searched).afterAll es).result = none)) ∧
      (∀ result n, ((start source searched).afterAll (es ++ [.executed result])).status.Quotes n ↔
        ((start source searched).afterAll es).discovery = .ready ∧ result.isError = true ∧
          result.exitCode = n) ∧
      ((∀ before, before <+: es → ((start source searched).afterAll before).QuotesResult) ↔
        ∀ before e, before ++ [e] <+: es →
          ¬ ((start source searched).afterAll before).Forgets e) := by
  have hrecalls := recalls_afterAll_start source searched
  have hsnoc : ∀ before e, (start source searched).afterAll (before ++ [e]) =
      ((start source searched).afterAll before).after e := fun before e => afterAll_append _ _ _
  refine ⟨?_, ?_, ?_, ?_⟩
  · intro n hn
    obtain ⟨-, -, r, hlast, herror, hcode⟩ := (hrecalls es).failed n (Status.quotes_iff.1 hn)
    refine ⟨r, hlast, herror, hcode, ?_⟩
    cases hr : ((start source searched).afterAll es).result with
    | none => exact .inr rfl
    | some r' => exact .inl (((hrecalls es).result r' hr).symm.trans hlast)
  · intro result n
    rw [hsnoc]
    exact quotes_finishExecution_iff
  · intro hquotes before e hbefore hforgets
    have hfresh := (hrecalls _).quotesResult_iff.1 (hquotes (before ++ [e]) hbefore)
    rw [hsnoc] at hfresh
    exact hfresh ((hrecalls before).isStale_after hforgets)
  · -- from the start on, the status line can go wrong only where the result is forgotten
    intro hkept before
    induction before using List.reverseRecOn with
    | nil => exact fun _ => (hrecalls []).quotesResult_iff.2 (not_isStale_start source searched)
    | append_singleton before e ih =>
      intro hbefore
      have hfresh := (hrecalls _).quotesResult_iff.1 (ih ((List.prefix_append _ _).trans hbefore))
      refine (hrecalls _).quotesResult_iff.2 fun hstale => ?_
      rw [hsnoc] at hstale
      exact hkept before e hbefore (forgets_of_isStale_after hfresh hstale)

/-- A run that ends with exit code 1. -/
def failedRun : List Event :=
  [.discovered (some ⟨"/usr/bin/php", "PHP 8"⟩), .key ⟨.function 5, false⟩,
    .executed (.completed "" 1)]

theorem quotes_afterAll_failedRun :
    ((start "1;" []).afterAll failedRun).status.Quotes 1 ∧
      ∃ r, lastResult? failedRun = some r ∧ r.isError = true ∧ r.exitCode = 1 ∧
        (((start "1;" []).afterAll failedRun).result = some r ∨
          ((start "1;" []).afterAll failedRun).result = none) := by
  have hquotes : ((start "1;" []).afterAll failedRun).status.Quotes 1 := Status.quotes_iff.2 rfl
  exact ⟨hquotes, (quotes_afterAll "1;" [] failedRun).1 1 hquotes⟩

/-- The result is cleared, and the status line goes on to quote it. -/
theorem status_after_clear :
    ((start "1;" []).afterAll (failedRun ++ [.key ⟨.char 'l', true⟩])).status.message =
        "Exit code 1 | ctrl+r execute | F1 help" ∧
      ((start "1;" []).afterAll (failedRun ++ [.key ⟨.char 'l', true⟩])).result = none ∧
      ¬ ((start "1;" []).afterAll (failedRun ++ [.key ⟨.char 'l', true⟩])).QuotesResult := by
  refine ⟨by decide +kernel, rfl, fun hquotes => ?_⟩
  obtain ⟨r, hr, -⟩ := hquotes 1 (Status.quotes_iff.2 rfl)
  exact Option.some_ne_none r hr.symm

end Session

end Scratchpad
