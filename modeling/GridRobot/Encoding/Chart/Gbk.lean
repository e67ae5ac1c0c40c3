import GridRobot.Encoding.Chart

/-! # GBK -/

namespace GridRobot.Encoding.Chart

/-- The symbols that GBK has besides those of GB 2312, or in their place. -/
def gbkSymbols : Chart :=
  .ofSpans [
    (0xA1A4, "·"),
    (0xA1AA, "—"),
    (0xA2A1, "ⅰⅱⅲⅳⅴⅵⅶⅷⅸⅹ"),
    (0xA6E0, "︵︶︹︺︿﹀︽︾﹁﹂﹃﹄"),
    (0xA6EE, "︻︼︷︸︱"),
    (0xA6F4, "︳︴"),
    (0xA840, "ˊˋ˙–―‥‵℅℉↖↗↘↙∕∟∣≒≦≧⊿═║╒╓╔╕╖╗╘╙╚╛╜╝╞╟╠╡╢╣╤╥╦╧╨╩╪"),
    (0xA86F, "╫╬╭╮╯╰╱╲╳▁▂▃▄▅▆▇"),
    (0xA880, "█▉▊▋▌▍▎▏▓▔▕▼▽◢◣◤◥☉⊕〒〝〞"),
    (0xA8BB, "ɑ"),
    (0xA8BD, "ńň"),
    (0xA8C0, "ɡ"),
    (0xA940, "〡〢〣〤〥〦〧〨〩㊣㎎㎏㎜㎝㎞㎡㏄㏎㏑㏒㏕︰￢￤"),
    (0xA959, "℡㈱"),
    (0xA95C, "‐"),
    (0xA960, "ー゛゜ヽヾ〆ゝゞ﹉﹊﹋﹌﹍﹎﹏﹐﹑﹒﹔﹕﹖﹗﹙﹚﹛﹜﹝﹞﹟﹠﹡"),
    (0xA980, "﹢﹣﹤﹥﹦﹨﹩﹪﹫"),
    (0xA996, "〇")]

end GridRobot.Encoding.Chart
