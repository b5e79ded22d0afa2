import Scratchpad.Shell.Condition
import Scratchpad.Shell.Printf
import Scratchpad.Utility.Basic

/-!
# Utilities that write their arguments

Those that write words, parts of paths and formatted texts, and those that only have a status.
-/

namespace Scratchpad.Utility

open Scratchpad.Machine Scratchpad.Shell

/-- Whether an argument consists of options of `echo`. -/
def isEchoOption (a : Bytes) : Bool :=
  match a with
  | '-' :: c :: cs => (c :: cs).all fun c => c == 'n' || c == 'e' || c == 'E'
  | _ => false

/-- The value of a hexadecimal digit. -/
def hexValue (c : Char) : Nat :=
  if c.isDigit then c.toNat - '0'.toNat else c.toLower.toNat - 'a'.toNat + 10

/-- Whether a character is a hexadecimal digit. -/
def isHex (c : Char) : Bool := c.isDigit || ('a' ≤ c.toLower && c.toLower ≤ 'f')

/-- A text with its escapes resolved, and whether it goes on. -/
def unescapedWord (fuel : Nat) (cs : Bytes) : Bytes × Bool :=
  match fuel with
  | 0 => (cs, true)
  | fuel + 1 =>
    let byte (value taken : Nat) : Bytes × Bool :=
      let (more, go) := unescapedWord fuel (cs.drop taken)
      (Char.ofNat (value % 256) :: more, go)
    match cs with
    | [] => ([], true)
    | '\\' :: 'c' :: _ => ([], false)
    | '\\' :: 'x' :: rest =>
      let digits := (rest.take 2).takeWhile isHex
      if digits.isEmpty then byte '\\'.toNat 1
      else byte (digits.foldl (fun n c => 16 * n + hexValue c) 0) (2 + digits.length)
    | '\\' :: '0' :: rest =>
      let digits := (rest.take 3).takeWhile isOctal
      byte (octalByte digits).toNat (2 + digits.length)
    | '\\' :: d :: rest =>
      let digits := ((d :: rest).take 3).takeWhile isOctal
      if !digits.isEmpty then byte (octalByte digits).toNat (1 + digits.length)
      else
        match controlOf? d with
        | some c => byte c.toNat 2
        | none => byte '\\'.toNat 1
    | c :: _ => byte c.toNat 1

/-- Writes its arguments. Escapes are resolved only if that is asked for. -/
def echo (c : Call) : Routine Nat := do
  let flags := c.arguments.takeWhile isEchoOption
  let text := spaced (c.arguments.drop flags.length)
  let resolves := (flags.flatten.reverse.find? fun c => c == 'e' || c == 'E') == some 'e'
  let (out, go) := if resolves then unescapedWord (text.length + 1) text else (text, true)
  c.put (if go && !flags.flatten.contains 'n' then out ++ ['\n'] else out)
  pure 0

/-- The character of a number, or its number where it is none of the plain ones. -/
def universal (letter : Char) (digits : Bytes) : Bytes :=
  let n := digits.foldl (fun n c => 16 * n + hexValue c) 0
  if n < 128 then [Char.ofNat n] else '\\' :: letter :: digits.map Char.toUpper

/-- What stands for the text after a backslash in a format, how much of the text that is, and
whether the output goes on. -/
def formatEscape (cs : Bytes) : Bytes × Nat × Bool :=
  match cs with
  | '"' :: _ => (['"'], 1, true)
  | 'c' :: _ => ([], 1, false)
  | 'x' :: rest =>
    let digits := (rest.take 2).takeWhile isHex
    if digits.isEmpty then (['\\'], 0, true)
    else
      ([Char.ofNat (digits.foldl (fun n c => 16 * n + hexValue c) 0)], 1 + digits.length, true)
  | 'u' :: rest =>
    if rest.take 4 |>.all isHex then (universal 'u' (rest.take 4), 5, true) else (['\\'], 0, true)
  | 'U' :: rest =>
    if rest.take 8 |>.all isHex then (universal 'U' (rest.take 8), 9, true) else (['\\'], 0, true)
  | cs =>
    let (c, n) := escape cs
    ([c], n, true)

/-- The rules of formats. -/
def formatRules : FormatRules where
  escape := formatEscape
  resolved cs := unescapedWord (cs.length + 1) cs
  quoted? := some shownName

/-- Writes its arguments as a format says. -/
def printf (c : Call) : Routine Nat := do
  let args := match c.arguments with
    | ['-', '-'] :: rest => rest
    | args => args
  match args with
  | [] => c.misused "missing operand".toList 1
  | format :: args =>
    let (fault, w) := printed formatRules format args
    Routine.forEach w.complaints fun e => c.complain (cited e.1 ++ match e.2 with
      | .noNumber => ": expected a numeric value".toList
      | .rest => ": value not completely converted".toList
      | .tooLarge => ": Numerical result out of range".toList)
    c.put w.text
    match fault with
    | some e => c.fail (e.text ++ ": invalid conversion specification".toList) 1
    | none =>
      match w.left with
      | a :: _ =>
        if w.closed then pure ()
        else c.complain ("warning: ignoring excess arguments, starting with ".toList ++ cited a)
      | [] => pure ()
      pure (if w.complaints.isEmpty then 0 else 1)

/-- Writes a line again and again. -/
def yes (c : Call) : Routine Nat := do
  let (_, words) ← c.options (.before "" []) 1
  let line := (if words.isEmpty then ['y'] else spaced words) ++ ['\n']
  let block := (List.replicate (1 + 8192 / line.length) line).flatten
  Routine.loop Routine.patience (fun () => do
    match ← Routine.writeAll 1 block with
    | .ok _ => pure (.inl ())
    | .error f =>
      c.complain ("standard output: ".toList ++ f.text.toList)
      pure (.inr 1)) (fun _ => 1) ()

/-- A path without the slashes at its end; a path of slashes only is one slash. -/
def withoutSlashes (path : Bytes) : Bytes :=
  if !path.isEmpty && path.all (· = '/') then ['/']
  else (path.reverse.dropWhile (· = '/')).reverse

/-- The last part of a path. -/
def lastPart (path : Bytes) : Bytes :=
  let path := withoutSlashes path
  if path = ['/'] then path else (path.reverse.takeWhile (· != '/')).reverse

/-- A text without its end, if that is not all of it. -/
def withoutEnd (text ending : Bytes) : Bytes :=
  if ending.length < text.length && ending.isSuffixOf text then
    text.take (text.length - ending.length)
  else text

/-- Writes the last parts of paths. -/
def basename (c : Call) : Routine Nat := do
  let (os, args) ← c.options (.before "as:z"
    [("multiple", 'a'), ("suffix", 's'), ("zero", 'z')]) 1
  let ended := if given os 'z' then ['\x00'] else ['\n']
  let several := given os 'a' || given os 's'
  match args with
  | [] => c.misused "missing operand".toList 1
  | _ =>
    if several then
      let ending := (lastOf os 's').getD []
      c.put (args.flatMap fun a => withoutEnd (lastPart a) ending ++ ended)
      pure 0
    else
      match args with
      | [a] =>
        c.put (lastPart a ++ ended)
        pure 0
      | [a, ending] =>
        let part := lastPart a
        c.put ((if part = ['/'] then part else withoutEnd part ending) ++ ended)
        pure 0
      | _ => c.misused ("extra operand ".toList ++ cited (args.getD 2 [])) 1

/-- A path without its last part. -/
def parentPath (path : Bytes) : Bytes :=
  let trimmed := withoutSlashes path
  if trimmed = ['/'] then ['/']
  else
    let front := trimmed.take (trimmed.length - (lastPart trimmed).length)
    if front.isEmpty then ['.'] else withoutSlashes front

/-- Writes paths without their last parts. -/
def dirname (c : Call) : Routine Nat := do
  let (os, args) ← c.options (.before "z" [("zero", 'z')]) 1
  if args.isEmpty then c.misused "missing operand".toList 1
  else
    c.put (args.flatMap fun a => parentPath a ++ if given os 'z' then ['\x00'] else ['\n'])
    pure 0

/-- Tests a condition. -/
def test (bracketed : Bool) (c : Call) : Routine Nat := do
  if bracketed && c.arguments.getLast? != some [']'] then c.fail "missing ']'".toList 2
  else
    match ← Condition.status (if bracketed then c.arguments.dropLast else c.arguments) with
    | .ok n => pure n
    | .error e => c.fail e 2

end Scratchpad.Utility
