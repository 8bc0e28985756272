import SynthesisHoles.Tree.Program

/-!
# Sample programs

Small programs that show what the library does: most are well scoped, two use a variable outside its
scope.
-/

namespace SynthesisHoles.Samples

/-- An integer literal. -/
def integer (value : Int) : Expression :=
  .literal (.int value)

/-- A bit literal. -/
def bit (value : Bool) : Expression :=
  .literal (.bool value)

/-- A character literal. -/
def character (value : Char) : Expression :=
  .literal (.char value)

/-- An operator between two operands. -/
def binary (left : Expression) (operator : String) (right : Expression) : Expression :=
  .call operator [left, right]

/-- A declaration with an initial value. -/
def declare (line : Nat) (type : DataType) (name : String) (initial : Expression) : Statement :=
  .declare line ⟨name, type⟩ (some initial)

/-- An assignment to a variable. -/
def assign (line : Nat) (name : String) (value : Expression) : Statement :=
  .assign line (.var name) value

/-- A block as a statement: the line of the statement, the line of the brace, and the contents. -/
def blockAt (statementLine braceLine : Nat) (statements : List Statement) : Statement :=
  .block statementLine (.mk braceLine statements)

/-- A program of one function at line one. -/
def single
    (name : String)
    (parameters : List Binding)
    (result : DataType)
    (statements : List Statement) :
    Program where
  functions := [{ name, parameters, result, body := .mk 1 statements, line := 1 }]

/-- Counts up in a loop that tests its condition last. -/
def counter : Program :=
  single "main" [] .void
    [ declare 2 .int "x" (integer 3),
      .doWhile 5
        (some (blockAt 0 3 [assign 4 "x" (binary (.var "x") "+" (integer 1))]))
        (binary (.var "x") "<" (integer 3)) ]

/-- Sums the integers below `n` but for the multiples of seven. -/
def sum : Program :=
  single "sum" [⟨"n", .int⟩] .int
    [ declare 2 .int "total" (integer 0),
      .forLoop 3
        (some (declare 3 .int "i" (integer 0)))
        (some (binary (.var "i") "<" (.var "n")))
        (some (assign 3 "i" (binary (.var "i") "+" (integer 1))))
        (some (blockAt 0 3
          [ .branch 4
              (binary (binary (.var "i") "%" (integer 7)) "==" (integer 0))
              (.continueLoop 5)
              none,
            assign 6 "total" (binary (.var "total") "+" (.var "i")) ])),
      .assertion 8 (binary (.var "total") ">=" (integer 0)),
      .returnWith 9 (some (.var "total")) ]

/-- Searches for a number in a loop inside a loop. -/
def nestedLoops : Program :=
  single "search" [⟨"target", .int⟩] .bit
    [ declare 2 .bit "found" (bit false),
      .forLoop 3
        (some (declare 3 .int "i" (integer 1)))
        (some (binary (.var "i") "<=" (integer 16)))
        (some (assign 3 "i" (binary (.var "i") "*" (integer 2))))
        (some (blockAt 0 3
          [ declare 4 .int "j" (.var "i"),
            .whileLoop 5
              (binary (.var "j") ">" (integer 0))
              (some (blockAt 0 5
                [ .branch 6
                    (binary (.var "j") "==" (.var "target"))
                    (blockAt 0 6 [assign 7 "found" (bit true), .breakLoop 8])
                    none,
                  assign 10 "j" (binary (.var "j") "-" (integer 3)) ])) ])),
      .returnWith 13 (some (.var "found")) ]

/-- Counts how often a character occurs. -/
def chars : Program :=
  single "count" [⟨"s", .array .char⟩, ⟨"len", .int⟩] .int
    [ declare 2 .char "c" (character 'a'),
      declare 3 .int "n" (integer 0),
      declare 4 .int "i" (integer 0),
      .whileLoop 5
        (binary (.var "i") "<" (.var "len"))
        (some (blockAt 0 5
          [ .branch 6
              (binary (.element (.var "s") (.var "i")) "==" (.var "c"))
              (assign 6 "n" (binary (.var "n") "+" (integer 1)))
              (some (.empty 6)),
            assign 7 "i" (binary (.var "i") "+" (integer 1)) ])),
      .returnWith 9 (some (.var "n")) ]

/-- Fills the diagonal of a square matrix and marks the matrix. -/
def matrix : Program :=
  single "diagonal" [⟨"m", .struct "Matrix"⟩, ⟨"size", .int⟩] .void
    [ .forLoop 2
        (some (declare 2 .int "k" (integer 0)))
        (some (binary (.var "k") "<" (.var "size")))
        (some (assign 2 "k" (binary (.var "k") "+" (integer 1))))
        (some (.assign 3
          (.element (.element (.field (.var "m") "cells") (.var "k")) (.var "k"))
          (.conditional (bit true) (integer 1) (.call "-" [integer 1])))),
      .assign 4 (.field (.var "m") "diagonal") (bit true),
      .evaluate 5 (.call "display" [.var "m", .array [character '|', character '-']]),
      .returnWith 6 none ]

/-- Uses a variable of a block after the block. -/
def outOfScope : Program :=
  single "main" [] .void
    [ blockAt 0 2 [declare 3 .int "x" (integer 1)],
      declare 5 .int "y" (.var "x") ]

/-- Uses the counter of a loop after the loop. -/
def loopCounterEscapes : Program :=
  single "main" [] .void
    [ .forLoop 2
        (some (declare 2 .int "i" (integer 0)))
        (some (binary (.var "i") "<" (integer 3)))
        (some (assign 2 "i" (binary (.var "i") "+" (integer 1))))
        none,
      .returnWith 3 (some (.var "i")) ]

/-- The samples with their names, in the order in which they are listed. -/
def all : List (String × Program) :=
  [ ("counter", counter),
    ("sum", sum),
    ("nested_loops", nestedLoops),
    ("chars", chars),
    ("matrix", matrix),
    ("out_of_scope", outOfScope),
    ("loop_counter_escapes", loopCounterEscapes) ]

/-- Names of the samples. -/
def names : List String :=
  all.map Prod.fst

/-- Sample of a name. -/
def find? (name : String) : Option Program :=
  (all.find? fun sample => sample.1 = name).map Prod.snd

end SynthesisHoles.Samples
