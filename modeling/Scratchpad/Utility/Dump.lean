import Scratchpad.Shell.Printf
import Scratchpad.Utility.Quantity

/-!
# Showing bytes

`od` shows the bytes of files as numbers or characters, so many on a line behind the position of the
first one, and `base64` as a text of common characters.
-/

namespace Scratchpad.Utility

open Scratchpad.Machine Scratchpad.Shell

namespace Dump

/-- How a group of bytes is shown. -/
structure Form where
  /-- A letter: `a` and `c` for characters, and `d`, `o`, `u` and `x` for numbers. -/
  kind : Char
  size : Nat
  /-- Whether the line is also shown as a text. -/
  withText : Bool
  deriving DecidableEq, Repr

namespace Form

/-- The width of a number or a character. -/
def width (f : Form) : Nat :=
  match f.kind, f.size with
  | 'x', n => 2 * n
  | 'o', 1 => 3
  | 'o', 2 => 6
  | 'o', 4 => 11
  | 'o', _ => 22
  | 'u', 1 => 3
  | 'u', 2 => 5
  | 'u', 4 => 10
  | 'u', _ => 20
  | 'd', 1 => 4
  | 'd', 2 => 6
  | 'd', 4 => 11
  | 'd', _ => 20
  | _, _ => 3

/-- The names of the characters that cannot be shown. -/
def names : List String :=
  ["nul", "soh", "stx", "etx", "eot", "enq", "ack", "bel", "bs", "ht", "nl", "vt", "ff", "cr", "so",
    "si", "dle", "dc1", "dc2", "dc3", "dc4", "nak", "syn", "etb", "can", "em", "sub", "esc", "fs",
    "gs", "rs", "us", "sp"]

/-- The number that bytes are, the least significant one first. -/
def valueOf (bytes : Bytes) : Nat := bytes.foldr (fun c n => c.toNat + 256 * n) 0

/-- A group of bytes as it is shown, without blanks before it. -/
def shown (f : Form) (bytes : Bytes) : Bytes :=
  let n := valueOf bytes
  let filled (base digits : Nat) : Bytes :=
    let ds := Nat.toDigits base n
    List.replicate (digits - ds.length) '0' ++ ds
  match f.kind with
  | 'x' => filled 16 (2 * f.size)
  | 'o' => filled 8 f.width
  | 'u' => Bytes.ofNat n
  | 'd' =>
    let bound := Nat.pow 2 (8 * f.size - 1)
    if n < bound then Bytes.ofNat n else '-' :: Bytes.ofNat (2 * bound - n)
  | 'a' =>
    let n := n % 128
    if n = 127 then "del".toList
    else match names[n]? with
      | some name => name.toList
      | none => [Char.ofNat n]
  | _ =>
    match Char.ofNat n with
    | '\x00' => "\\0".toList
    | '\x07' => "\\a".toList
    | '\x08' => "\\b".toList
    | '\x0c' => "\\f".toList
    | '\n' => "\\n".toList
    | '\r' => "\\r".toList
    | '\t' => "\\t".toList
    | '\x0b' => "\\v".toList
    | c => if isShown c then [c] else filled 8 3

/-- The forms that a text such as `x1z` asks for. -/
def all? (fuel : Nat) (text : Bytes) : Except Bytes (List Form) :=
  match fuel with
  | 0 => .ok []
  | fuel + 1 =>
    match text with
    | [] => .ok []
    | c :: rest => do
      let sized := "doux".toList.contains c
      let digits := if sized then rest.takeWhile Char.isDigit else []
      let after := rest.drop digits.length
      let (size, after) := match digits, after with
        | [], 'C' :: r => if sized then (1, r) else (1, after)
        | [], 'S' :: r => if sized then (2, r) else (1, after)
        | [], 'I' :: r => if sized then (4, r) else (1, after)
        | [], 'L' :: r => if sized then (8, r) else (1, after)
        | [], _ => (if sized then 4 else 1, after)
        | ds, _ => ((Bytes.toNat? ds).getD 0, after)
      let (withText, after) := match after with
        | 'z' :: r => (true, r)
        | r => (false, r)
      if !sized && c != 'a' && c != 'c' then
        .error ("invalid character ".toList ++ cited [c] ++ " in type string ".toList ++ cited text)
      else if !([1, 2, 4, 8].contains size) then
        .error ("invalid type string ".toList ++ cited text ++
          ";\nthis system doesn't provide a ".toList ++ Bytes.ofNat size ++
          "-byte integral type".toList)
      else .ok (⟨c, size, withText⟩ :: (← all? fuel after))

end Form

/-- Cuts bytes into groups; the last one is filled up with zeroes. -/
def groups (size : Nat) (fuel : Nat) (bytes : Bytes) : List Bytes :=
  match fuel with
  | 0 => []
  | fuel + 1 =>
    if bytes.isEmpty then []
    else
      let g := bytes.take size
      (g ++ List.replicate (size - g.length) '\x00') :: groups size fuel (bytes.drop size)

/-- The bytes of a line in a form; `perLine` bytes belong to a full line, and `total` is the width
that the widest form needs for one. -/
def formLine (f : Form) (perLine total : Nat) (bytes : Bytes) : Bytes :=
  let fields := perLine / f.size
  let room := total - (f.width + 1) * fields
  let gs := groups f.size (bytes.length + 1) bytes
  let text := gs.zipIdx.flatMap fun g =>
    let before := room * (fields - g.2) / fields
    let after := room * (fields - g.2 - 1) / fields
    let s := f.shown g.1
    List.replicate (f.width + 1 + (before - after) - s.length) ' ' ++ s
  if f.withText then
    let missing := total - text.length
    text ++ List.replicate missing ' ' ++ "  >".toList ++
      bytes.map (fun c => if isShown c then c else '.') ++ ['<']
  else text

/-- How positions are shown. -/
structure Positions where
  base : Nat
  digits : Nat
  deriving DecidableEq, Repr

/-- A position. -/
def Positions.shown (p : Positions) (n : Nat) : Bytes :=
  let ds := Nat.toDigits p.base n
  List.replicate (p.digits - ds.length) '0' ++ ds

/-- The lines for bytes from a position on. Lines like the one before are left out, with one star
for all, unless `full`. -/
def lines (forms : List Form) (perLine total : Nat) (positions : Option Positions) (full : Bool)
    (fuel : Nat) (position : Nat) (last : Option Bytes) (starred : Bool) (bytes : Bytes) : Bytes :=
  match fuel with
  | 0 => []
  | fuel + 1 =>
    let here := bytes.take perLine
    if here.isEmpty then []
    else
      let rest := bytes.drop perLine
      let next := position + here.length
      if !full && last = some here && here.length = perLine then
        (if starred then [] else "*\n".toList) ++
          lines forms perLine total positions full fuel next last true rest
      else
        let mark := (positions.map fun p => p.shown position).getD []
        let rows := forms.zipIdx.flatMap fun f =>
          (if f.2 = 0 then mark else List.replicate mark.length ' ') ++
            formLine f.1 perLine total here ++ ['\n']
        rows ++ lines forms perLine total positions full fuel next (some here) false rest

end Dump

/-- The bytes of files one after the other, at most so many; nothing if no file could be opened. The
status tells whether all could be read. -/
def readTogether (c : Call) (most : Option Nat) (status : Nat) (got : Option Bytes) :
    List Bytes → Routine (Nat × Option Bytes)
  | [] => pure (status, got)
  | path :: paths => do
    match ← openInput path with
    | .error f =>
      c.complainOf path f
      readTogether c most 1 got paths
    | .ok d =>
      let (r, text) ← Routine.loop Routine.patience (fun (s : List Bytes × Nat) => do
        let room := (most.map fun m => m - s.2).getD Routine.chunk
        if room = 0 then pure (.inr (none, s.1.reverse.flatten))
        else
          match ← Routine.ask (.read d (min room Routine.chunk)) with
          | .ok [] => pure (.inr (none, s.1.reverse.flatten))
          | .ok bytes => pure (.inl (bytes :: s.1, s.2 + bytes.length))
          | .error f => pure (.inr (some f, s.1.reverse.flatten)))
        (fun s => (none, s.1.reverse.flatten)) ([], (got.getD []).length)
      closeInput d
      match r with
      | some f =>
        c.complainOf path f
        readTogether c most 1 (some (got.getD [] ++ text)) paths
      | none => readTogether c most status (some (got.getD [] ++ text)) paths

/-- Shows the bytes of files. -/
def od (c : Call) : Routine Nat := do
  -- The width stands in the same argument as its letter, or there is none.
  let (widths, rest) := c.arguments.partition fun a => "-w".toList.isPrefixOf a
  let (os, paths) ← { c with arguments := rest }.options (.among "A:N:j:t:vabcdoxish"
    [("address-radix", 'A'), ("read-bytes", 'N'), ("skip-bytes", 'j'), ("format", 't'),
      ("output-duplicates", 'v')]) 1
  let number (o : Char) : Routine (Option Nat) :=
    match lastOf os o with
    | none => pure none
    | some text =>
      match Bytes.toNat? text with
      | some n => pure (some n)
      | none => c.fail ("invalid -".toList ++ [o] ++ " argument ".toList ++ cited text) 1
  let most ← number 'N'
  let skipped := (← number 'j').getD 0
  let positions : Option Dump.Positions ← match lastOf os 'A' with
    | none => pure (some ⟨8, 7⟩)
    | some ['o'] => pure (some ⟨8, 7⟩)
    | some ['d'] => pure (some ⟨10, 7⟩)
    | some ['x'] => pure (some ⟨16, 6⟩)
    | some ['n'] => pure none
    | some text =>
      c.fail ("invalid output address radix ".toList ++ cited text ++
        "; it must be one character from [doxn]".toList) 1
  let forms ← os.foldlM (fun fs o => do
    match (match o.1 with
      | 't' => Dump.Form.all? (o.2.length + 1) o.2
      | 'a' => .ok [⟨'a', 1, false⟩]
      | 'b' => .ok [⟨'o', 1, false⟩]
      | 'c' => .ok [⟨'c', 1, false⟩]
      | 'd' => .ok [⟨'u', 2, false⟩]
      | 'o' => .ok [⟨'o', 2, false⟩]
      | 'x' => .ok [⟨'x', 2, false⟩]
      | 'h' => .ok [⟨'x', 2, false⟩]
      | 'i' => .ok [⟨'d', 4, false⟩]
      | 's' => .ok [⟨'d', 2, false⟩]
      | _ => .ok []) with
    | .ok more => pure (fs ++ more)
    | .error e => c.fail e 1) ([] : List Dump.Form)
  let forms := if forms.isEmpty then [⟨'o', 2, false⟩] else forms
  let perLine := match widths.getLast? with
    | none => 16
    | some a => (Bytes.toNat? (a.drop 2)).getD 32
  let perLine := if perLine = 0 then 16 else perLine
  let (status, all) ← readTogether c (most.map fun m => m + skipped) 0 none
    (if paths.isEmpty then [['-']] else paths)
  match all with
  | none => pure status
  | some all => write c forms perLine positions (given os 'v') skipped status all
where
  write (c : Call) (forms : List Dump.Form) (perLine : Nat) (positions : Option Dump.Positions)
      (full : Bool) (skipped status : Nat) (all : Bytes) : Routine Nat := do
    if all.length < skipped then c.fail "cannot skip past end of combined input".toList 1
    else
      let bytes := all.drop skipped
      let total := (forms.map fun f => (f.width + 1) * (perLine / f.size)).foldr max 0
      c.put (Dump.lines forms perLine total positions full (bytes.length + 1) skipped none false
        bytes)
      match positions with
      | some p => c.put (p.shown (skipped + bytes.length) ++ ['\n'])
      | none => pure ()
      pure status

/-- The characters that stand for the numbers up to 63. -/
def sixBits : Bytes :=
  "ABCDEFGHIJKLMNOPQRSTUVWXYZabcdefghijklmnopqrstuvwxyz0123456789+/".toList

/-- Three bytes as four characters, and fewer with marks at the end. -/
def encoded : Bytes → Bytes
  | [] => []
  | [a] =>
    let n := a.toNat * 16
    digit (n / 64) :: digit (n % 64) :: "==".toList
  | [a, b] =>
    let n := (a.toNat * 256 + b.toNat) * 4
    digit (n / 4096) :: digit (n / 64 % 64) :: digit (n % 64) :: ['=']
  | a :: b :: c :: rest =>
    let n := (a.toNat * 256 + b.toNat) * 256 + c.toNat
    digit (n / 262144) :: digit (n / 4096 % 64) :: digit (n / 64 % 64) :: digit (n % 64) ::
      encoded rest
where
  digit (n : Nat) : Char := sixBits.getD n '='

/-- The bytes that characters stand for, and whether all of them could be read. -/
def decoded (fuel : Nat) (cs : Bytes) : Bytes × Bool :=
  match fuel with
  | 0 => ([], true)
  | fuel + 1 =>
    let value (c : Char) : Option Nat := sixBits.idxOf? c
    match cs with
    | [] => ([], true)
    | a :: b :: c :: d :: rest =>
      match value a, value b, value c, value d with
      | some w, some x, some y, some z =>
        let n := ((w * 64 + x) * 64 + y) * 64 + z
        let (more, fine) := decoded fuel rest
        (Char.ofNat (n / 65536) :: Char.ofNat (n / 256 % 256) :: Char.ofNat (n % 256) :: more, fine)
      | some w, some x, some y, none =>
        let n := ((w * 64 + x) * 64 + y) / 4
        ([Char.ofNat (n / 256), Char.ofNat (n % 256)], d = '=' && rest.isEmpty)
      | some w, some x, none, none =>
        ([Char.ofNat ((w * 64 + x) / 16)], c = '=' && d = '=' && rest.isEmpty)
      | some w, some x, none, some _ => ([Char.ofNat ((w * 64 + x) / 16)], false)
      | _, _, _, _ => ([], false)
    | [a, b] =>
      match value a, value b with
      | some w, some x => ([Char.ofNat ((w * 64 + x) / 16)], false)
      | _, _ => ([], false)
    | [a, b, c] =>
      match value a, value b, value c with
      | some w, some x, some y =>
        let n := ((w * 64 + x) * 64 + y) / 4
        ([Char.ofNat (n / 256), Char.ofNat (n % 256)], false)
      | _, _, _ => ([], false)
    | _ => ([], false)

/-- A text cut into lines of a width. -/
def inLines (width : Nat) (fuel : Nat) (text : Bytes) : Bytes :=
  match fuel with
  | 0 => []
  | fuel + 1 =>
    if text.isEmpty then []
    else text.take width ++ '\n' :: inLines width fuel (text.drop width)

/-- Writes a file as a text of common characters, or reads such a text. -/
def base64 (c : Call) : Routine Nat := do
  let (os, paths) ← c.options (.among "diw:"
    [("decode", 'd'), ("ignore-garbage", 'i'), ("wrap", 'w')]) 1
  let width ← (os.filter fun o => o.1 = 'w').foldlM (fun _ o =>
    match countOf "" o.2 with
    | .ok n => pure n
    | .error .malformed => c.fail ("invalid wrap size: ".toList ++ cited o.2) 1
    | .error _ => pure 0) 76
  match paths with
  | _ :: p :: _ => c.misused ("extra operand ".toList ++ cited p) 1
  | _ =>
    let path := paths.headD ['-']
    match ← readFile path with
    | .error f => c.fail (shownName path ++ ": ".toList ++ f.text.toList) 1
    | .ok text =>
      if given os 'd' then
        let cs := text.filter fun ch =>
          ch != '\n' && (!given os 'i' || ch == '=' || sixBits.contains ch)
        let (out, fine) := decoded (cs.length + 1) cs
        c.put out
        if fine then pure 0 else c.fail "invalid input".toList 1
      else
        let out := encoded text
        c.put (if width = 0 then out else inLines width (out.length + 1) out)
        pure 0

end Scratchpad.Utility
