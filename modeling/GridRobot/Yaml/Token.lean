import GridRobot.Yaml.Property

/-! # Tokens of settings files -/

namespace GridRobot.Yaml

/-- A piece of a settings file. The starts and ends of blocks are not written, but follow from the
indentation. A problem ends the tokens of a text that could not be read on. -/
inductive Token where
  | directive (d : Directive)
  | documentStart
  | documentEnd
  | sequenceBlock
  | mappingBlock
  | blockEnd
  | flowSequence
  | flowSequenceEnd
  | flowMapping
  | flowMappingEnd
  /-- The hyphen before an item of a block. -/
  | item
  /-- The comma between items in brackets. -/
  | comma
  | key
  | value
  | alias (name : Text)
  | anchor (name : Text)
  | tag (t : WrittenTag)
  | scalar (text : LooseText) (isPlain : Bool)
  | textEnd
  | problem (p : Problem)
  deriving DecidableEq

end GridRobot.Yaml
