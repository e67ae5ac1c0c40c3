import GridRobot.Encoding.MultiByte
import GridRobot.Encoding.Chart.Big5
import GridRobot.Encoding.Chart.HongKong
import GridRobot.Encoding.Chart.Windows950

/-! # Encodings of traditional Chinese

Big5 and the sets of characters that extend it. -/

namespace GridRobot.Encoding.MultiByte

def big5 : MultiByte :=
  ofChart "big5" .big5

def windows950 : MultiByte :=
  ofChart "cp950" (.join [.windows950Replaced, .big5, .windows950Extras])

/-- The letters that have one code together with a mark above. -/
def hongKongPairs : List Chart.Pair :=
  [⟨0x8862, '\u00CA', '\u0304'⟩, ⟨0x8864, '\u00CA', '\u030C'⟩, ⟨0x88A3, '\u00EA', '\u0304'⟩,
    ⟨0x88A5, '\u00EA', '\u030C'⟩]

def hongKong : MultiByte :=
  let chart := Chart.hongKong.orElse .big5
  ofFixed "big5hkscs" (readDouble asciiByte? (textStep (pairedText? hongKongPairs chart.char?)))
    (writePaired hongKongPairs (fun _ => none) fun c => (asciiCode? c).or (chart.code? c))

end GridRobot.Encoding.MultiByte
