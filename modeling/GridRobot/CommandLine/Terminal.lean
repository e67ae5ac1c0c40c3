import GridRobot.CommandLine.Page
import GridRobot.Error

/-! # Terminals

Section 10.7 of the specification. A call names a command, with options of the program before it and
arguments behind it. Arguments are read, and lines are printed, by what stands between the program
and its terminal, which is no part of this library. -/

namespace GridRobot.CommandLine

structure Options where
  config : Option LooseText := none
  level : Option Text := none

inductive Task where
  | explain (commands : List Text)
  | run (input output : LooseText)

/-- Why a call ends before its command. -/
inductive Stop where
  | exit (output messages : LooseText) (status : Nat)
  | error (error : Error)

structure Terminal (State : Type) where
  /-- Reads the options of the program, one of which may be given by the surroundings, and the name
  of a command. The arguments of the command are left. -/
  options : State → Option LooseText → List LooseText → Except Stop (Options × Page × List LooseText)
  /-- Reads the arguments of a command. -/
  task : State → Page → List LooseText → Except Stop Task
  /-- A line as it is printed. -/
  echo : LooseText → LooseText

end GridRobot.CommandLine
