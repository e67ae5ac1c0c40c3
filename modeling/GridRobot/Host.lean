import GridRobot.Encoding.Codec
import GridRobot.Files.System
import GridRobot.Yaml.Loader

/-! # Surroundings of a run

What the program finds and does not bring itself: a file system, the codecs that are no schemes, the
encoding of the locale, a reader of settings files, and the number of calls inside of each other
that there is room for when a value is shown. -/

namespace GridRobot

structure Host where
  files : FileSystem
  codecs : Encoding.OtherCodecs
  locale : Encoding.Scheme
  loader : Yaml.Loader
  room : Nat

end GridRobot
