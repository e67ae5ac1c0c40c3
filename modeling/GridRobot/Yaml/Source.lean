import GridRobot.Encoding.Reader
import GridRobot.Yaml.Character
import GridRobot.Yaml.Problem

/-! # Texts of settings files

A settings file is read in blocks, as its text is needed. The first block has two portions, and each
of the others has one. A block with a character that does not belong in a settings file, or with
bytes that are no text, is a problem as a whole, and nothing can be read from there on. -/

namespace GridRobot.Yaml

/-- The text of a settings file, up to a problem if there is one. -/
structure SourceText where
  text : Text
  problem : Option Problem := none

namespace SourceText

/-- The number of characters in a portion. -/
def portionSize : Nat := 4096

/-- The text of blocks in front of the first that holds a character out of place. -/
def ofBlocks (fault : Option Encoding.DecodeError) : List Text → SourceText
  | [] => ⟨[], fault.map .decode⟩
  | block :: blocks =>
    if block.all printable.has then
      let later := ofBlocks fault blocks
      { later with text := block ++ later.text }
    else ⟨[], some .malformed⟩

/-- The text of portions, whose line ends are line feeds. -/
def ofPortions (p : Encoding.Portions) : SourceText :=
  match p.portions with
  | first :: second :: more => ofBlocks p.fault ((first ++ second) :: more)
  | portions => if p.fault.isSome then ofBlocks p.fault [] else ofBlocks none portions

/-- The text of bytes. -/
def ofBytes (scheme : Encoding.Scheme) (bs : Encoding.Bytes) : SourceText :=
  ofPortions (scheme.portions portionSize bs)

end SourceText

end GridRobot.Yaml
