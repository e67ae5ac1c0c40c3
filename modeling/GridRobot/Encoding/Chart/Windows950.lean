import GridRobot.Encoding.Chart

/-! # Windows code page 950 -/

namespace GridRobot.Encoding.Chart

/-- The characters that differ from those of Big5, or that have another code. -/
def windows950Replaced : Chart :=
  .ofSpans [
    (0xA145, "‧"),
    (0xA14E, "﹑"),
    (0xA1C2, "¯"),
    (0xA1E3, "～"),
    (0xA1F2, "⊕⊙"),
    (0xA1FE, "／"),
    (0xA240, "＼∕﹨"),
    (0xA244, "￥"),
    (0xA246, "￠￡")]

/-- The characters that were added to those of Big5. -/
def windows950Extras : Chart :=
  .ofSpans [
    (0xA3E1, "€"),
    (0xF9D6, "碁銹裏墻恒粧嫺╔╦╗╠╬╣╚╩╝╒╤╕╞╪╡╘╧╛╓╥╖╟╫╢╙╨╜║═╭╮╰╯▓")]

end GridRobot.Encoding.Chart
