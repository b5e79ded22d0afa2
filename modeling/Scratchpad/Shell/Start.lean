import Scratchpad.Shell.Run

/-!
# Shells as programs

What a shell does that is started as a program: it sets its options and arguments, and carries out
the script that is given as an argument, in a file, or as its input.
-/

namespace Scratchpad.Shell

open Scratchpad.Machine

/-- How long a shell may go on. -/
def endurance : Nat := 1000000000

namespace State

/-- The variables that every shell has. -/
def ownVariables : List Variable :=
  [("IFS", " \t\n"), ("PATH", "/usr/local/sbin:/usr/local/bin:/usr/sbin:/usr/bin:/sbin:/bin"),
   ("PS1", "# "), ("PS2", "> "), ("PS4", "+ "), ("OPTIND", "1")].map fun v =>
    ⟨v.1.toList, some v.2.toList, false, false⟩

/-- A shell with the variables that it was handed. -/
def fresh (name : Bytes) (environment : Bindings) (id : Nat) : State :=
  let given := environment.filter fun v => isName v.1
  let sh : State :=
    { bindings := ownVariables
      hidden := []
      functions := []
      aliases := []
      name
      arguments := []
      directory := []
      id
      lastBackground := none
      status := 0
      outputStatus := 0
      options := []
      context := none
      line := 0
      readTo := 0
      loops := 0
      calls := 0
      leaving := .nothing
      traps := []
      pending := []
      saved := none
      deaf := []
      jobs := []
      optionIndex := 1
      optionOffset := none
      found := []
      mute := false
      mask := 18
      shownOn := 2 }
  let sh := given.foldl (fun sh v => sh.put ⟨v.1, some v.2, true, false⟩) sh
  ownVariables.foldl (fun sh v =>
    if v.name = "IFS".toList || v.name = "OPTIND".toList then sh.put v else sh) sh

end State

/-- Finds out what concerns the shell itself: its parent, its directory, and the signals that it
does not hear. -/
def settle (parent : Nat) : Action Unit := do
  modify fun sh => sh.put ⟨"PPID".toList, some (Bytes.ofNat parent), false, false⟩
  let place := Builtin.pathOf (← Action.ask .here)
  let given := (← get).get "PWD"
  let known ←
    if given.head? = some '/' then Action.ask (.look given) else pure (.error .noEntry)
  let directory :=
    if known.toOption = some .directory && Builtin.plainPath [] given = place then given else place
  modify fun sh => { sh with directory }.put ⟨"PWD".toList, some directory, true, false⟩
  Action.forEach (List.range 32) fun s => do
    if s = 0 then pure ()
    else
      match ← Action.ask (.reaction s) with
      | .ignored => modify fun sh => { sh with deaf := s :: sh.deaf }
      | _ => pure ()

/-- Sets the options at the front of the arguments of a shell, and tells whether a script is among
them. -/
def startOptions (fuel : Nat) (inArguments : Bool) (args : List Bytes) :
    Action (Bool × List Bytes) :=
  match fuel with
  | 0 => pure (inArguments, args)
  | fuel + 1 => do
    match args with
    | ['-'] :: rest => pure (inArguments, rest)
    | ['-', '-'] :: rest => pure (inArguments, rest)
    | ('-' :: cs) :: rest =>
      let own := cs.filter fun c => c != 'c' && c != 'l'
      if own.contains 'i' then Builtin.lackTerminal
      startOptions fuel (inArguments || cs.contains 'c') (← Builtin.setGroup true own rest)
    | ('+' :: cs) :: rest =>
      let own := cs.filter fun c => c != 'c' && c != 'l'
      startOptions fuel (inArguments || cs.contains 'c') (← Builtin.setGroup false own rest)
    | args => pure (inArguments, args)

/-- Carries out the script that the arguments of a shell give. -/
def carryOutGiven (fuel : Nat) (args : List Bytes) : Action Nat := do
  let (inArguments, args) ← startOptions (args.length + 1) false args
  let input : Action Nat := do
    match ← Action.lift (Routine.readAll 0) with
    | .ok text => carryOutScript fuel text
    | .error _ => pure 0
  match inArguments, args with
  | true, [] => Action.fail "-c requires an argument".toList
  | true, text :: rest =>
    match rest with
    | name :: arguments => modify fun sh => { sh with name, arguments }
    | [] => pure ()
    if (← get).has 's' then
      let _ ← carryOutText fuel .usual text
      input
    else carryOutText fuel .usual text
  | false, args =>
    if args.isEmpty then modify fun sh => sh.withOption 's' true
    if (← get).has 's' then
      modify fun sh => { sh with arguments := args }
      input
    else
      let path := args.headD []
      let d ← openFile .read false path
      let text ← Action.lift (Routine.readAll d)
      let _ ← Action.ask (.close d)
      modify fun sh => { sh with name := path, arguments := args.drop 1 }
      carryOutScript fuel (match text with
        | .ok bytes => bytes
        | .error _ => [])

/-- What a shell does that was called by a name with arguments. -/
def start (name : Bytes) (args : List Bytes) (environment : Bindings) : Routine Nat := do
  let (id, parent) ← Routine.ask .identity
  carryOutWhole endurance (do
    settle parent
    carryOutGiven endurance args) (State.fresh name environment id)

end Scratchpad.Shell
