import SysExporter.Yaml.Directive

namespace SysExporter.Yaml

inductive Style where
  | plain
  | singleQuoted
  | doubleQuoted
  | literal
  | folded
  deriving DecidableEq, Repr

inductive Symbol where
  | directive (d : Directive)
  | documentStart
  | documentEnd
  | blockSequenceStart
  | blockMappingStart
  | blockEnd
  | flowSequenceStart
  | flowSequenceEnd
  | flowMappingStart
  | flowMappingEnd
  | blockEntry
  | flowEntry
  | key
  | value
  | aliasName (name : List Char)
  | anchorName (name : List Char)
  | tag (name : TagName)
  | scalar (text : List Char) (style : Style)
  | streamEnd
  deriving DecidableEq, Repr

-- A symbol with the places where it begins and ends. Symbols that the text does
-- not show, such as the end of a block, take no room.
structure Token where
  symbol : Symbol
  start : Mark
  stop : Mark
  deriving DecidableEq, Repr

-- The tokens of a text. They end regularly, or at a fault.
structure TokenStream where
  tokens : List Token
  ending : Except Fault Mark

end SysExporter.Yaml
