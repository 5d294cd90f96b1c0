import SysExporter.Yaml.Lexer.Basic

namespace SysExporter.Yaml

namespace Lex

-- A block collection begins where something stands right of the one around it.
-- Its first token goes to the given place, or to the end.
def indent (column : Nat) (number : Option Nat) (symbol : Symbol) (mark : Mark) : Lex Unit := do
  let l ← get
  if !l.inFlow && l.isLeftOf column then
    set { l with
      indentation := some column, outerIndentations := l.indentation :: l.outerIndentations }
    match number with
    | none => pushAt symbol mark
    | some n => insertAt n symbol mark

-- The block collections that are not left of the column end here. All of them
-- do if there is no column.
def dedentAll (column : Option Nat) : List (Option Nat) → Lex Unit
  | [] => return ()
  | outer :: rest => do
    let l ← get
    match l.indentation with
    | none => return ()
    | some indentation =>
      if column.all (· < indentation) then
        pushAt .blockEnd l.cursor.mark
        modify fun l => { l with indentation := outer, outerIndentations := rest }
        dedentAll column rest

def dedent (column : Option Nat) : Lex Unit := do
  let l ← get
  if !l.inFlow then dedentAll column l.outerIndentations

end Lex

end SysExporter.Yaml
