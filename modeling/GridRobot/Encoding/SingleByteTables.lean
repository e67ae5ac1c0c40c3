import GridRobot.Encoding.SingleByte

/-! # Tables of single-byte encodings

Each row has the code points of sixteen bytes; a byte that stands for nothing is shown as dashes.
Tables of eight rows start after ASCII. -/

namespace GridRobot.Encoding.SingleByte

def cp037 : SingleByte :=
  .ofRows [
    "0000 0001 0002 0003 009C 0009 0086 007F 0097 008D 008E 000B 000C 000D 000E 000F",
    "0010 0011 0012 0013 009D 0085 0008 0087 0018 0019 0092 008F 001C 001D 001E 001F",
    "0080 0081 0082 0083 0084 000A 0017 001B 0088 0089 008A 008B 008C 0005 0006 0007",
    "0090 0091 0016 0093 0094 0095 0096 0004 0098 0099 009A 009B 0014 0015 009E 001A",
    "0020 00A0 00E2 00E4 00E0 00E1 00E3 00E5 00E7 00F1 00A2 002E 003C 0028 002B 007C",
    "0026 00E9 00EA 00EB 00E8 00ED 00EE 00EF 00EC 00DF 0021 0024 002A 0029 003B 00AC",
    "002D 002F 00C2 00C4 00C0 00C1 00C3 00C5 00C7 00D1 00A6 002C 0025 005F 003E 003F",
    "00F8 00C9 00CA 00CB 00C8 00CD 00CE 00CF 00CC 0060 003A 0023 0040 0027 003D 0022",
    "00D8 0061 0062 0063 0064 0065 0066 0067 0068 0069 00AB 00BB 00F0 00FD 00FE 00B1",
    "00B0 006A 006B 006C 006D 006E 006F 0070 0071 0072 00AA 00BA 00E6 00B8 00C6 00A4",
    "00B5 007E 0073 0074 0075 0076 0077 0078 0079 007A 00A1 00BF 00D0 00DD 00DE 00AE",
    "005E 00A3 00A5 00B7 00A9 00A7 00B6 00BC 00BD 00BE 005B 005D 00AF 00A8 00B4 00D7",
    "007B 0041 0042 0043 0044 0045 0046 0047 0048 0049 00AD 00F4 00F6 00F2 00F3 00F5",
    "007D 004A 004B 004C 004D 004E 004F 0050 0051 0052 00B9 00FB 00FC 00F9 00FA 00FF",
    "005C 00F7 0053 0054 0055 0056 0057 0058 0059 005A 00B2 00D4 00D6 00D2 00D3 00D5",
    "0030 0031 0032 0033 0034 0035 0036 0037 0038 0039 00B3 00DB 00DC 00D9 00DA 009F"]

def cp1006 : SingleByte :=
  .ofRows [
    "0080 0081 0082 0083 0084 0085 0086 0087 0088 0089 008A 008B 008C 008D 008E 008F",
    "0090 0091 0092 0093 0094 0095 0096 0097 0098 0099 009A 009B 009C 009D 009E 009F",
    "00A0 06F0 06F1 06F2 06F3 06F4 06F5 06F6 06F7 06F8 06F9 060C 061B 00AD 061F FE81",
    "FE8D FE8E FE8E FE8F FE91 FB56 FB58 FE93 FE95 FE97 FB66 FB68 FE99 FE9B FE9D FE9F",
    "FB7A FB7C FEA1 FEA3 FEA5 FEA7 FEA9 FB84 FEAB FEAD FB8C FEAF FB8A FEB1 FEB3 FEB5",
    "FEB7 FEB9 FEBB FEBD FEBF FEC1 FEC5 FEC9 FECA FECB FECC FECD FECE FECF FED0 FED1",
    "FED3 FED5 FED7 FED9 FEDB FB92 FB94 FEDD FEDF FEE0 FEE1 FEE3 FB9E FEE5 FEE7 FE85",
    "FEED FBA6 FBA8 FBA9 FBAA FE80 FE89 FE8A FE8B FEF1 FEF2 FEF3 FBB0 FBAE FE7C FE7D"]

def cp1026 : SingleByte :=
  .ofRows [
    "0000 0001 0002 0003 009C 0009 0086 007F 0097 008D 008E 000B 000C 000D 000E 000F",
    "0010 0011 0012 0013 009D 0085 0008 0087 0018 0019 0092 008F 001C 001D 001E 001F",
    "0080 0081 0082 0083 0084 000A 0017 001B 0088 0089 008A 008B 008C 0005 0006 0007",
    "0090 0091 0016 0093 0094 0095 0096 0004 0098 0099 009A 009B 0014 0015 009E 001A",
    "0020 00A0 00E2 00E4 00E0 00E1 00E3 00E5 007B 00F1 00C7 002E 003C 0028 002B 0021",
    "0026 00E9 00EA 00EB 00E8 00ED 00EE 00EF 00EC 00DF 011E 0130 002A 0029 003B 005E",
    "002D 002F 00C2 00C4 00C0 00C1 00C3 00C5 005B 00D1 015F 002C 0025 005F 003E 003F",
    "00F8 00C9 00CA 00CB 00C8 00CD 00CE 00CF 00CC 0131 003A 00D6 015E 0027 003D 00DC",
    "00D8 0061 0062 0063 0064 0065 0066 0067 0068 0069 00AB 00BB 007D 0060 00A6 00B1",
    "00B0 006A 006B 006C 006D 006E 006F 0070 0071 0072 00AA 00BA 00E6 00B8 00C6 00A4",
    "00B5 00F6 0073 0074 0075 0076 0077 0078 0079 007A 00A1 00BF 005D 0024 0040 00AE",
    "00A2 00A3 00A5 00B7 00A9 00A7 00B6 00BC 00BD 00BE 00AC 007C 00AF 00A8 00B4 00D7",
    "00E7 0041 0042 0043 0044 0045 0046 0047 0048 0049 00AD 00F4 007E 00F2 00F3 00F5",
    "011F 004A 004B 004C 004D 004E 004F 0050 0051 0052 00B9 00FB 005C 00F9 00FA 00FF",
    "00FC 00F7 0053 0054 0055 0056 0057 0058 0059 005A 00B2 00D4 0023 00D2 00D3 00D5",
    "0030 0031 0032 0033 0034 0035 0036 0037 0038 0039 00B3 00DB 0022 00D9 00DA 009F"]

def cp1125 : SingleByte :=
  .ofRows [
    "0410 0411 0412 0413 0414 0415 0416 0417 0418 0419 041A 041B 041C 041D 041E 041F",
    "0420 0421 0422 0423 0424 0425 0426 0427 0428 0429 042A 042B 042C 042D 042E 042F",
    "0430 0431 0432 0433 0434 0435 0436 0437 0438 0439 043A 043B 043C 043D 043E 043F",
    "2591 2592 2593 2502 2524 2561 2562 2556 2555 2563 2551 2557 255D 255C 255B 2510",
    "2514 2534 252C 251C 2500 253C 255E 255F 255A 2554 2569 2566 2560 2550 256C 2567",
    "2568 2564 2565 2559 2558 2552 2553 256B 256A 2518 250C 2588 2584 258C 2590 2580",
    "0440 0441 0442 0443 0444 0445 0446 0447 0448 0449 044A 044B 044C 044D 044E 044F",
    "0401 0451 0490 0491 0404 0454 0406 0456 0407 0457 00B7 221A 2116 00A4 25A0 00A0"]

def cp1140 : SingleByte :=
  .ofRows [
    "0000 0001 0002 0003 009C 0009 0086 007F 0097 008D 008E 000B 000C 000D 000E 000F",
    "0010 0011 0012 0013 009D 0085 0008 0087 0018 0019 0092 008F 001C 001D 001E 001F",
    "0080 0081 0082 0083 0084 000A 0017 001B 0088 0089 008A 008B 008C 0005 0006 0007",
    "0090 0091 0016 0093 0094 0095 0096 0004 0098 0099 009A 009B 0014 0015 009E 001A",
    "0020 00A0 00E2 00E4 00E0 00E1 00E3 00E5 00E7 00F1 00A2 002E 003C 0028 002B 007C",
    "0026 00E9 00EA 00EB 00E8 00ED 00EE 00EF 00EC 00DF 0021 0024 002A 0029 003B 00AC",
    "002D 002F 00C2 00C4 00C0 00C1 00C3 00C5 00C7 00D1 00A6 002C 0025 005F 003E 003F",
    "00F8 00C9 00CA 00CB 00C8 00CD 00CE 00CF 00CC 0060 003A 0023 0040 0027 003D 0022",
    "00D8 0061 0062 0063 0064 0065 0066 0067 0068 0069 00AB 00BB 00F0 00FD 00FE 00B1",
    "00B0 006A 006B 006C 006D 006E 006F 0070 0071 0072 00AA 00BA 00E6 00B8 00C6 20AC",
    "00B5 007E 0073 0074 0075 0076 0077 0078 0079 007A 00A1 00BF 00D0 00DD 00DE 00AE",
    "005E 00A3 00A5 00B7 00A9 00A7 00B6 00BC 00BD 00BE 005B 005D 00AF 00A8 00B4 00D7",
    "007B 0041 0042 0043 0044 0045 0046 0047 0048 0049 00AD 00F4 00F6 00F2 00F3 00F5",
    "007D 004A 004B 004C 004D 004E 004F 0050 0051 0052 00B9 00FB 00FC 00F9 00FA 00FF",
    "005C 00F7 0053 0054 0055 0056 0057 0058 0059 005A 00B2 00D4 00D6 00D2 00D3 00D5",
    "0030 0031 0032 0033 0034 0035 0036 0037 0038 0039 00B3 00DB 00DC 00D9 00DA 009F"]

def cp1250 : SingleByte :=
  .ofRows [
    "20AC ---- 201A ---- 201E 2026 2020 2021 ---- 2030 0160 2039 015A 0164 017D 0179",
    "---- 2018 2019 201C 201D 2022 2013 2014 ---- 2122 0161 203A 015B 0165 017E 017A",
    "00A0 02C7 02D8 0141 00A4 0104 00A6 00A7 00A8 00A9 015E 00AB 00AC 00AD 00AE 017B",
    "00B0 00B1 02DB 0142 00B4 00B5 00B6 00B7 00B8 0105 015F 00BB 013D 02DD 013E 017C",
    "0154 00C1 00C2 0102 00C4 0139 0106 00C7 010C 00C9 0118 00CB 011A 00CD 00CE 010E",
    "0110 0143 0147 00D3 00D4 0150 00D6 00D7 0158 016E 00DA 0170 00DC 00DD 0162 00DF",
    "0155 00E1 00E2 0103 00E4 013A 0107 00E7 010D 00E9 0119 00EB 011B 00ED 00EE 010F",
    "0111 0144 0148 00F3 00F4 0151 00F6 00F7 0159 016F 00FA 0171 00FC 00FD 0163 02D9"]

def cp1251 : SingleByte :=
  .ofRows [
    "0402 0403 201A 0453 201E 2026 2020 2021 20AC 2030 0409 2039 040A 040C 040B 040F",
    "0452 2018 2019 201C 201D 2022 2013 2014 ---- 2122 0459 203A 045A 045C 045B 045F",
    "00A0 040E 045E 0408 00A4 0490 00A6 00A7 0401 00A9 0404 00AB 00AC 00AD 00AE 0407",
    "00B0 00B1 0406 0456 0491 00B5 00B6 00B7 0451 2116 0454 00BB 0458 0405 0455 0457",
    "0410 0411 0412 0413 0414 0415 0416 0417 0418 0419 041A 041B 041C 041D 041E 041F",
    "0420 0421 0422 0423 0424 0425 0426 0427 0428 0429 042A 042B 042C 042D 042E 042F",
    "0430 0431 0432 0433 0434 0435 0436 0437 0438 0439 043A 043B 043C 043D 043E 043F",
    "0440 0441 0442 0443 0444 0445 0446 0447 0448 0449 044A 044B 044C 044D 044E 044F"]

def cp1252 : SingleByte :=
  .ofRows [
    "20AC ---- 201A 0192 201E 2026 2020 2021 02C6 2030 0160 2039 0152 ---- 017D ----",
    "---- 2018 2019 201C 201D 2022 2013 2014 02DC 2122 0161 203A 0153 ---- 017E 0178",
    "00A0 00A1 00A2 00A3 00A4 00A5 00A6 00A7 00A8 00A9 00AA 00AB 00AC 00AD 00AE 00AF",
    "00B0 00B1 00B2 00B3 00B4 00B5 00B6 00B7 00B8 00B9 00BA 00BB 00BC 00BD 00BE 00BF",
    "00C0 00C1 00C2 00C3 00C4 00C5 00C6 00C7 00C8 00C9 00CA 00CB 00CC 00CD 00CE 00CF",
    "00D0 00D1 00D2 00D3 00D4 00D5 00D6 00D7 00D8 00D9 00DA 00DB 00DC 00DD 00DE 00DF",
    "00E0 00E1 00E2 00E3 00E4 00E5 00E6 00E7 00E8 00E9 00EA 00EB 00EC 00ED 00EE 00EF",
    "00F0 00F1 00F2 00F3 00F4 00F5 00F6 00F7 00F8 00F9 00FA 00FB 00FC 00FD 00FE 00FF"]

def cp1253 : SingleByte :=
  .ofRows [
    "20AC ---- 201A 0192 201E 2026 2020 2021 ---- 2030 ---- 2039 ---- ---- ---- ----",
    "---- 2018 2019 201C 201D 2022 2013 2014 ---- 2122 ---- 203A ---- ---- ---- ----",
    "00A0 0385 0386 00A3 00A4 00A5 00A6 00A7 00A8 00A9 ---- 00AB 00AC 00AD 00AE 2015",
    "00B0 00B1 00B2 00B3 0384 00B5 00B6 00B7 0388 0389 038A 00BB 038C 00BD 038E 038F",
    "0390 0391 0392 0393 0394 0395 0396 0397 0398 0399 039A 039B 039C 039D 039E 039F",
    "03A0 03A1 ---- 03A3 03A4 03A5 03A6 03A7 03A8 03A9 03AA 03AB 03AC 03AD 03AE 03AF",
    "03B0 03B1 03B2 03B3 03B4 03B5 03B6 03B7 03B8 03B9 03BA 03BB 03BC 03BD 03BE 03BF",
    "03C0 03C1 03C2 03C3 03C4 03C5 03C6 03C7 03C8 03C9 03CA 03CB 03CC 03CD 03CE ----"]

def cp1254 : SingleByte :=
  .ofRows [
    "20AC ---- 201A 0192 201E 2026 2020 2021 02C6 2030 0160 2039 0152 ---- ---- ----",
    "---- 2018 2019 201C 201D 2022 2013 2014 02DC 2122 0161 203A 0153 ---- ---- 0178",
    "00A0 00A1 00A2 00A3 00A4 00A5 00A6 00A7 00A8 00A9 00AA 00AB 00AC 00AD 00AE 00AF",
    "00B0 00B1 00B2 00B3 00B4 00B5 00B6 00B7 00B8 00B9 00BA 00BB 00BC 00BD 00BE 00BF",
    "00C0 00C1 00C2 00C3 00C4 00C5 00C6 00C7 00C8 00C9 00CA 00CB 00CC 00CD 00CE 00CF",
    "011E 00D1 00D2 00D3 00D4 00D5 00D6 00D7 00D8 00D9 00DA 00DB 00DC 0130 015E 00DF",
    "00E0 00E1 00E2 00E3 00E4 00E5 00E6 00E7 00E8 00E9 00EA 00EB 00EC 00ED 00EE 00EF",
    "011F 00F1 00F2 00F3 00F4 00F5 00F6 00F7 00F8 00F9 00FA 00FB 00FC 0131 015F 00FF"]

def cp1255 : SingleByte :=
  .ofRows [
    "20AC ---- 201A 0192 201E 2026 2020 2021 02C6 2030 ---- 2039 ---- ---- ---- ----",
    "---- 2018 2019 201C 201D 2022 2013 2014 02DC 2122 ---- 203A ---- ---- ---- ----",
    "00A0 00A1 00A2 00A3 20AA 00A5 00A6 00A7 00A8 00A9 00D7 00AB 00AC 00AD 00AE 00AF",
    "00B0 00B1 00B2 00B3 00B4 00B5 00B6 00B7 00B8 00B9 00F7 00BB 00BC 00BD 00BE 00BF",
    "05B0 05B1 05B2 05B3 05B4 05B5 05B6 05B7 05B8 05B9 ---- 05BB 05BC 05BD 05BE 05BF",
    "05C0 05C1 05C2 05C3 05F0 05F1 05F2 05F3 05F4 ---- ---- ---- ---- ---- ---- ----",
    "05D0 05D1 05D2 05D3 05D4 05D5 05D6 05D7 05D8 05D9 05DA 05DB 05DC 05DD 05DE 05DF",
    "05E0 05E1 05E2 05E3 05E4 05E5 05E6 05E7 05E8 05E9 05EA ---- ---- 200E 200F ----"]

def cp1256 : SingleByte :=
  .ofRows [
    "20AC 067E 201A 0192 201E 2026 2020 2021 02C6 2030 0679 2039 0152 0686 0698 0688",
    "06AF 2018 2019 201C 201D 2022 2013 2014 06A9 2122 0691 203A 0153 200C 200D 06BA",
    "00A0 060C 00A2 00A3 00A4 00A5 00A6 00A7 00A8 00A9 06BE 00AB 00AC 00AD 00AE 00AF",
    "00B0 00B1 00B2 00B3 00B4 00B5 00B6 00B7 00B8 00B9 061B 00BB 00BC 00BD 00BE 061F",
    "06C1 0621 0622 0623 0624 0625 0626 0627 0628 0629 062A 062B 062C 062D 062E 062F",
    "0630 0631 0632 0633 0634 0635 0636 00D7 0637 0638 0639 063A 0640 0641 0642 0643",
    "00E0 0644 00E2 0645 0646 0647 0648 00E7 00E8 00E9 00EA 00EB 0649 064A 00EE 00EF",
    "064B 064C 064D 064E 00F4 064F 0650 00F7 0651 00F9 0652 00FB 00FC 200E 200F 06D2"]

def cp1257 : SingleByte :=
  .ofRows [
    "20AC ---- 201A ---- 201E 2026 2020 2021 ---- 2030 ---- 2039 ---- 00A8 02C7 00B8",
    "---- 2018 2019 201C 201D 2022 2013 2014 ---- 2122 ---- 203A ---- 00AF 02DB ----",
    "00A0 ---- 00A2 00A3 00A4 ---- 00A6 00A7 00D8 00A9 0156 00AB 00AC 00AD 00AE 00C6",
    "00B0 00B1 00B2 00B3 00B4 00B5 00B6 00B7 00F8 00B9 0157 00BB 00BC 00BD 00BE 00E6",
    "0104 012E 0100 0106 00C4 00C5 0118 0112 010C 00C9 0179 0116 0122 0136 012A 013B",
    "0160 0143 0145 00D3 014C 00D5 00D6 00D7 0172 0141 015A 016A 00DC 017B 017D 00DF",
    "0105 012F 0101 0107 00E4 00E5 0119 0113 010D 00E9 017A 0117 0123 0137 012B 013C",
    "0161 0144 0146 00F3 014D 00F5 00F6 00F7 0173 0142 015B 016B 00FC 017C 017E 02D9"]

def cp1258 : SingleByte :=
  .ofRows [
    "20AC ---- 201A 0192 201E 2026 2020 2021 02C6 2030 ---- 2039 0152 ---- ---- ----",
    "---- 2018 2019 201C 201D 2022 2013 2014 02DC 2122 ---- 203A 0153 ---- ---- 0178",
    "00A0 00A1 00A2 00A3 00A4 00A5 00A6 00A7 00A8 00A9 00AA 00AB 00AC 00AD 00AE 00AF",
    "00B0 00B1 00B2 00B3 00B4 00B5 00B6 00B7 00B8 00B9 00BA 00BB 00BC 00BD 00BE 00BF",
    "00C0 00C1 00C2 0102 00C4 00C5 00C6 00C7 00C8 00C9 00CA 00CB 0300 00CD 00CE 00CF",
    "0110 00D1 0309 00D3 00D4 01A0 00D6 00D7 00D8 00D9 00DA 00DB 00DC 01AF 0303 00DF",
    "00E0 00E1 00E2 0103 00E4 00E5 00E6 00E7 00E8 00E9 00EA 00EB 0301 00ED 00EE 00EF",
    "0111 00F1 0323 00F3 00F4 01A1 00F6 00F7 00F8 00F9 00FA 00FB 00FC 01B0 20AB 00FF"]

def cp273 : SingleByte :=
  .ofRows [
    "0000 0001 0002 0003 009C 0009 0086 007F 0097 008D 008E 000B 000C 000D 000E 000F",
    "0010 0011 0012 0013 009D 0085 0008 0087 0018 0019 0092 008F 001C 001D 001E 001F",
    "0080 0081 0082 0083 0084 000A 0017 001B 0088 0089 008A 008B 008C 0005 0006 0007",
    "0090 0091 0016 0093 0094 0095 0096 0004 0098 0099 009A 009B 0014 0015 009E 001A",
    "0020 00A0 00E2 007B 00E0 00E1 00E3 00E5 00E7 00F1 00C4 002E 003C 0028 002B 0021",
    "0026 00E9 00EA 00EB 00E8 00ED 00EE 00EF 00EC 007E 00DC 0024 002A 0029 003B 005E",
    "002D 002F 00C2 005B 00C0 00C1 00C3 00C5 00C7 00D1 00F6 002C 0025 005F 003E 003F",
    "00F8 00C9 00CA 00CB 00C8 00CD 00CE 00CF 00CC 0060 003A 0023 00A7 0027 003D 0022",
    "00D8 0061 0062 0063 0064 0065 0066 0067 0068 0069 00AB 00BB 00F0 00FD 00FE 00B1",
    "00B0 006A 006B 006C 006D 006E 006F 0070 0071 0072 00AA 00BA 00E6 00B8 00C6 00A4",
    "00B5 00DF 0073 0074 0075 0076 0077 0078 0079 007A 00A1 00BF 00D0 00DD 00DE 00AE",
    "00A2 00A3 00A5 00B7 00A9 0040 00B6 00BC 00BD 00BE 00AC 007C 203E 00A8 00B4 00D7",
    "00E4 0041 0042 0043 0044 0045 0046 0047 0048 0049 00AD 00F4 00A6 00F2 00F3 00F5",
    "00FC 004A 004B 004C 004D 004E 004F 0050 0051 0052 00B9 00FB 007D 00F9 00FA 00FF",
    "00D6 00F7 0053 0054 0055 0056 0057 0058 0059 005A 00B2 00D4 005C 00D2 00D3 00D5",
    "0030 0031 0032 0033 0034 0035 0036 0037 0038 0039 00B3 00DB 005D 00D9 00DA 009F"]

def cp424 : SingleByte :=
  .ofRows [
    "0000 0001 0002 0003 009C 0009 0086 007F 0097 008D 008E 000B 000C 000D 000E 000F",
    "0010 0011 0012 0013 009D 0085 0008 0087 0018 0019 0092 008F 001C 001D 001E 001F",
    "0080 0081 0082 0083 0084 000A 0017 001B 0088 0089 008A 008B 008C 0005 0006 0007",
    "0090 0091 0016 0093 0094 0095 0096 0004 0098 0099 009A 009B 0014 0015 009E 001A",
    "0020 05D0 05D1 05D2 05D3 05D4 05D5 05D6 05D7 05D8 00A2 002E 003C 0028 002B 007C",
    "0026 05D9 05DA 05DB 05DC 05DD 05DE 05DF 05E0 05E1 0021 0024 002A 0029 003B 00AC",
    "002D 002F 05E2 05E3 05E4 05E5 05E6 05E7 05E8 05E9 00A6 002C 0025 005F 003E 003F",
    "---- 05EA ---- ---- 00A0 ---- ---- ---- 2017 0060 003A 0023 0040 0027 003D 0022",
    "---- 0061 0062 0063 0064 0065 0066 0067 0068 0069 00AB 00BB ---- ---- ---- 00B1",
    "00B0 006A 006B 006C 006D 006E 006F 0070 0071 0072 ---- ---- ---- 00B8 ---- 00A4",
    "00B5 007E 0073 0074 0075 0076 0077 0078 0079 007A ---- ---- ---- ---- ---- 00AE",
    "005E 00A3 00A5 00B7 00A9 00A7 00B6 00BC 00BD 00BE 005B 005D 00AF 00A8 00B4 00D7",
    "007B 0041 0042 0043 0044 0045 0046 0047 0048 0049 00AD ---- ---- ---- ---- ----",
    "007D 004A 004B 004C 004D 004E 004F 0050 0051 0052 00B9 ---- ---- ---- ---- ----",
    "005C 00F7 0053 0054 0055 0056 0057 0058 0059 005A 00B2 ---- ---- ---- ---- ----",
    "0030 0031 0032 0033 0034 0035 0036 0037 0038 0039 00B3 ---- ---- ---- ---- 009F"]

def cp437 : SingleByte :=
  .ofRows [
    "00C7 00FC 00E9 00E2 00E4 00E0 00E5 00E7 00EA 00EB 00E8 00EF 00EE 00EC 00C4 00C5",
    "00C9 00E6 00C6 00F4 00F6 00F2 00FB 00F9 00FF 00D6 00DC 00A2 00A3 00A5 20A7 0192",
    "00E1 00ED 00F3 00FA 00F1 00D1 00AA 00BA 00BF 2310 00AC 00BD 00BC 00A1 00AB 00BB",
    "2591 2592 2593 2502 2524 2561 2562 2556 2555 2563 2551 2557 255D 255C 255B 2510",
    "2514 2534 252C 251C 2500 253C 255E 255F 255A 2554 2569 2566 2560 2550 256C 2567",
    "2568 2564 2565 2559 2558 2552 2553 256B 256A 2518 250C 2588 2584 258C 2590 2580",
    "03B1 00DF 0393 03C0 03A3 03C3 00B5 03C4 03A6 0398 03A9 03B4 221E 03C6 03B5 2229",
    "2261 00B1 2265 2264 2320 2321 00F7 2248 00B0 2219 00B7 221A 207F 00B2 25A0 00A0"]

def cp500 : SingleByte :=
  .ofRows [
    "0000 0001 0002 0003 009C 0009 0086 007F 0097 008D 008E 000B 000C 000D 000E 000F",
    "0010 0011 0012 0013 009D 0085 0008 0087 0018 0019 0092 008F 001C 001D 001E 001F",
    "0080 0081 0082 0083 0084 000A 0017 001B 0088 0089 008A 008B 008C 0005 0006 0007",
    "0090 0091 0016 0093 0094 0095 0096 0004 0098 0099 009A 009B 0014 0015 009E 001A",
    "0020 00A0 00E2 00E4 00E0 00E1 00E3 00E5 00E7 00F1 005B 002E 003C 0028 002B 0021",
    "0026 00E9 00EA 00EB 00E8 00ED 00EE 00EF 00EC 00DF 005D 0024 002A 0029 003B 005E",
    "002D 002F 00C2 00C4 00C0 00C1 00C3 00C5 00C7 00D1 00A6 002C 0025 005F 003E 003F",
    "00F8 00C9 00CA 00CB 00C8 00CD 00CE 00CF 00CC 0060 003A 0023 0040 0027 003D 0022",
    "00D8 0061 0062 0063 0064 0065 0066 0067 0068 0069 00AB 00BB 00F0 00FD 00FE 00B1",
    "00B0 006A 006B 006C 006D 006E 006F 0070 0071 0072 00AA 00BA 00E6 00B8 00C6 00A4",
    "00B5 007E 0073 0074 0075 0076 0077 0078 0079 007A 00A1 00BF 00D0 00DD 00DE 00AE",
    "00A2 00A3 00A5 00B7 00A9 00A7 00B6 00BC 00BD 00BE 00AC 007C 00AF 00A8 00B4 00D7",
    "007B 0041 0042 0043 0044 0045 0046 0047 0048 0049 00AD 00F4 00F6 00F2 00F3 00F5",
    "007D 004A 004B 004C 004D 004E 004F 0050 0051 0052 00B9 00FB 00FC 00F9 00FA 00FF",
    "005C 00F7 0053 0054 0055 0056 0057 0058 0059 005A 00B2 00D4 00D6 00D2 00D3 00D5",
    "0030 0031 0032 0033 0034 0035 0036 0037 0038 0039 00B3 00DB 00DC 00D9 00DA 009F"]

def cp720 : SingleByte :=
  .ofRows [
    "0080 0081 00E9 00E2 0084 00E0 0086 00E7 00EA 00EB 00E8 00EF 00EE 008D 008E 008F",
    "0090 0651 0652 00F4 00A4 0640 00FB 00F9 0621 0622 0623 0624 00A3 0625 0626 0627",
    "0628 0629 062A 062B 062C 062D 062E 062F 0630 0631 0632 0633 0634 0635 00AB 00BB",
    "2591 2592 2593 2502 2524 2561 2562 2556 2555 2563 2551 2557 255D 255C 255B 2510",
    "2514 2534 252C 251C 2500 253C 255E 255F 255A 2554 2569 2566 2560 2550 256C 2567",
    "2568 2564 2565 2559 2558 2552 2553 256B 256A 2518 250C 2588 2584 258C 2590 2580",
    "0636 0637 0638 0639 063A 0641 00B5 0642 0643 0644 0645 0646 0647 0648 0649 064A",
    "2261 064B 064C 064D 064E 064F 0650 2248 00B0 2219 00B7 221A 207F 00B2 25A0 00A0"]

def cp737 : SingleByte :=
  .ofRows [
    "0391 0392 0393 0394 0395 0396 0397 0398 0399 039A 039B 039C 039D 039E 039F 03A0",
    "03A1 03A3 03A4 03A5 03A6 03A7 03A8 03A9 03B1 03B2 03B3 03B4 03B5 03B6 03B7 03B8",
    "03B9 03BA 03BB 03BC 03BD 03BE 03BF 03C0 03C1 03C3 03C2 03C4 03C5 03C6 03C7 03C8",
    "2591 2592 2593 2502 2524 2561 2562 2556 2555 2563 2551 2557 255D 255C 255B 2510",
    "2514 2534 252C 251C 2500 253C 255E 255F 255A 2554 2569 2566 2560 2550 256C 2567",
    "2568 2564 2565 2559 2558 2552 2553 256B 256A 2518 250C 2588 2584 258C 2590 2580",
    "03C9 03AC 03AD 03AE 03CA 03AF 03CC 03CD 03CB 03CE 0386 0388 0389 038A 038C 038E",
    "038F 00B1 2265 2264 03AA 03AB 00F7 2248 00B0 2219 00B7 221A 207F 00B2 25A0 00A0"]

def cp775 : SingleByte :=
  .ofRows [
    "0106 00FC 00E9 0101 00E4 0123 00E5 0107 0142 0113 0156 0157 012B 0179 00C4 00C5",
    "00C9 00E6 00C6 014D 00F6 0122 00A2 015A 015B 00D6 00DC 00F8 00A3 00D8 00D7 00A4",
    "0100 012A 00F3 017B 017C 017A 201D 00A6 00A9 00AE 00AC 00BD 00BC 0141 00AB 00BB",
    "2591 2592 2593 2502 2524 0104 010C 0118 0116 2563 2551 2557 255D 012E 0160 2510",
    "2514 2534 252C 251C 2500 253C 0172 016A 255A 2554 2569 2566 2560 2550 256C 017D",
    "0105 010D 0119 0117 012F 0161 0173 016B 017E 2518 250C 2588 2584 258C 2590 2580",
    "00D3 00DF 014C 0143 00F5 00D5 00B5 0144 0136 0137 013B 013C 0146 0112 0145 2019",
    "00AD 00B1 201C 00BE 00B6 00A7 00F7 201E 00B0 2219 00B7 00B9 00B3 00B2 25A0 00A0"]

def cp850 : SingleByte :=
  .ofRows [
    "00C7 00FC 00E9 00E2 00E4 00E0 00E5 00E7 00EA 00EB 00E8 00EF 00EE 00EC 00C4 00C5",
    "00C9 00E6 00C6 00F4 00F6 00F2 00FB 00F9 00FF 00D6 00DC 00F8 00A3 00D8 00D7 0192",
    "00E1 00ED 00F3 00FA 00F1 00D1 00AA 00BA 00BF 00AE 00AC 00BD 00BC 00A1 00AB 00BB",
    "2591 2592 2593 2502 2524 00C1 00C2 00C0 00A9 2563 2551 2557 255D 00A2 00A5 2510",
    "2514 2534 252C 251C 2500 253C 00E3 00C3 255A 2554 2569 2566 2560 2550 256C 00A4",
    "00F0 00D0 00CA 00CB 00C8 0131 00CD 00CE 00CF 2518 250C 2588 2584 00A6 00CC 2580",
    "00D3 00DF 00D4 00D2 00F5 00D5 00B5 00FE 00DE 00DA 00DB 00D9 00FD 00DD 00AF 00B4",
    "00AD 00B1 2017 00BE 00B6 00A7 00F7 00B8 00B0 00A8 00B7 00B9 00B3 00B2 25A0 00A0"]

def cp852 : SingleByte :=
  .ofRows [
    "00C7 00FC 00E9 00E2 00E4 016F 0107 00E7 0142 00EB 0150 0151 00EE 0179 00C4 0106",
    "00C9 0139 013A 00F4 00F6 013D 013E 015A 015B 00D6 00DC 0164 0165 0141 00D7 010D",
    "00E1 00ED 00F3 00FA 0104 0105 017D 017E 0118 0119 00AC 017A 010C 015F 00AB 00BB",
    "2591 2592 2593 2502 2524 00C1 00C2 011A 015E 2563 2551 2557 255D 017B 017C 2510",
    "2514 2534 252C 251C 2500 253C 0102 0103 255A 2554 2569 2566 2560 2550 256C 00A4",
    "0111 0110 010E 00CB 010F 0147 00CD 00CE 011B 2518 250C 2588 2584 0162 016E 2580",
    "00D3 00DF 00D4 0143 0144 0148 0160 0161 0154 00DA 0155 0170 00FD 00DD 0163 00B4",
    "00AD 02DD 02DB 02C7 02D8 00A7 00F7 00B8 00B0 00A8 02D9 0171 0158 0159 25A0 00A0"]

def cp855 : SingleByte :=
  .ofRows [
    "0452 0402 0453 0403 0451 0401 0454 0404 0455 0405 0456 0406 0457 0407 0458 0408",
    "0459 0409 045A 040A 045B 040B 045C 040C 045E 040E 045F 040F 044E 042E 044A 042A",
    "0430 0410 0431 0411 0446 0426 0434 0414 0435 0415 0444 0424 0433 0413 00AB 00BB",
    "2591 2592 2593 2502 2524 0445 0425 0438 0418 2563 2551 2557 255D 0439 0419 2510",
    "2514 2534 252C 251C 2500 253C 043A 041A 255A 2554 2569 2566 2560 2550 256C 00A4",
    "043B 041B 043C 041C 043D 041D 043E 041E 043F 2518 250C 2588 2584 041F 044F 2580",
    "042F 0440 0420 0441 0421 0442 0422 0443 0423 0436 0416 0432 0412 044C 042C 2116",
    "00AD 044B 042B 0437 0417 0448 0428 044D 042D 0449 0429 0447 0427 00A7 25A0 00A0"]

def cp856 : SingleByte :=
  .ofRows [
    "05D0 05D1 05D2 05D3 05D4 05D5 05D6 05D7 05D8 05D9 05DA 05DB 05DC 05DD 05DE 05DF",
    "05E0 05E1 05E2 05E3 05E4 05E5 05E6 05E7 05E8 05E9 05EA ---- 00A3 ---- 00D7 ----",
    "---- ---- ---- ---- ---- ---- ---- ---- ---- 00AE 00AC 00BD 00BC ---- 00AB 00BB",
    "2591 2592 2593 2502 2524 ---- ---- ---- 00A9 2563 2551 2557 255D 00A2 00A5 2510",
    "2514 2534 252C 251C 2500 253C ---- ---- 255A 2554 2569 2566 2560 2550 256C 00A4",
    "---- ---- ---- ---- ---- ---- ---- ---- ---- 2518 250C 2588 2584 00A6 ---- 2580",
    "---- ---- ---- ---- ---- ---- 00B5 ---- ---- ---- ---- ---- ---- ---- 00AF 00B4",
    "00AD 00B1 2017 00BE 00B6 00A7 00F7 00B8 00B0 00A8 00B7 00B9 00B3 00B2 25A0 00A0"]

def cp857 : SingleByte :=
  .ofRows [
    "00C7 00FC 00E9 00E2 00E4 00E0 00E5 00E7 00EA 00EB 00E8 00EF 00EE 0131 00C4 00C5",
    "00C9 00E6 00C6 00F4 00F6 00F2 00FB 00F9 0130 00D6 00DC 00F8 00A3 00D8 015E 015F",
    "00E1 00ED 00F3 00FA 00F1 00D1 011E 011F 00BF 00AE 00AC 00BD 00BC 00A1 00AB 00BB",
    "2591 2592 2593 2502 2524 00C1 00C2 00C0 00A9 2563 2551 2557 255D 00A2 00A5 2510",
    "2514 2534 252C 251C 2500 253C 00E3 00C3 255A 2554 2569 2566 2560 2550 256C 00A4",
    "00BA 00AA 00CA 00CB 00C8 ---- 00CD 00CE 00CF 2518 250C 2588 2584 00A6 00CC 2580",
    "00D3 00DF 00D4 00D2 00F5 00D5 00B5 ---- 00D7 00DA 00DB 00D9 00EC 00FF 00AF 00B4",
    "00AD 00B1 ---- 00BE 00B6 00A7 00F7 00B8 00B0 00A8 00B7 00B9 00B3 00B2 25A0 00A0"]

def cp858 : SingleByte :=
  .ofRows [
    "00C7 00FC 00E9 00E2 00E4 00E0 00E5 00E7 00EA 00EB 00E8 00EF 00EE 00EC 00C4 00C5",
    "00C9 00E6 00C6 00F4 00F6 00F2 00FB 00F9 00FF 00D6 00DC 00F8 00A3 00D8 00D7 0192",
    "00E1 00ED 00F3 00FA 00F1 00D1 00AA 00BA 00BF 00AE 00AC 00BD 00BC 00A1 00AB 00BB",
    "2591 2592 2593 2502 2524 00C1 00C2 00C0 00A9 2563 2551 2557 255D 00A2 00A5 2510",
    "2514 2534 252C 251C 2500 253C 00E3 00C3 255A 2554 2569 2566 2560 2550 256C 00A4",
    "00F0 00D0 00CA 00CB 00C8 20AC 00CD 00CE 00CF 2518 250C 2588 2584 00A6 00CC 2580",
    "00D3 00DF 00D4 00D2 00F5 00D5 00B5 00FE 00DE 00DA 00DB 00D9 00FD 00DD 00AF 00B4",
    "00AD 00B1 2017 00BE 00B6 00A7 00F7 00B8 00B0 00A8 00B7 00B9 00B3 00B2 25A0 00A0"]

def cp860 : SingleByte :=
  .ofRows [
    "00C7 00FC 00E9 00E2 00E3 00E0 00C1 00E7 00EA 00CA 00E8 00CD 00D4 00EC 00C3 00C2",
    "00C9 00C0 00C8 00F4 00F5 00F2 00DA 00F9 00CC 00D5 00DC 00A2 00A3 00D9 20A7 00D3",
    "00E1 00ED 00F3 00FA 00F1 00D1 00AA 00BA 00BF 00D2 00AC 00BD 00BC 00A1 00AB 00BB",
    "2591 2592 2593 2502 2524 2561 2562 2556 2555 2563 2551 2557 255D 255C 255B 2510",
    "2514 2534 252C 251C 2500 253C 255E 255F 255A 2554 2569 2566 2560 2550 256C 2567",
    "2568 2564 2565 2559 2558 2552 2553 256B 256A 2518 250C 2588 2584 258C 2590 2580",
    "03B1 00DF 0393 03C0 03A3 03C3 00B5 03C4 03A6 0398 03A9 03B4 221E 03C6 03B5 2229",
    "2261 00B1 2265 2264 2320 2321 00F7 2248 00B0 2219 00B7 221A 207F 00B2 25A0 00A0"]

def cp861 : SingleByte :=
  .ofRows [
    "00C7 00FC 00E9 00E2 00E4 00E0 00E5 00E7 00EA 00EB 00E8 00D0 00F0 00DE 00C4 00C5",
    "00C9 00E6 00C6 00F4 00F6 00FE 00FB 00DD 00FD 00D6 00DC 00F8 00A3 00D8 20A7 0192",
    "00E1 00ED 00F3 00FA 00C1 00CD 00D3 00DA 00BF 2310 00AC 00BD 00BC 00A1 00AB 00BB",
    "2591 2592 2593 2502 2524 2561 2562 2556 2555 2563 2551 2557 255D 255C 255B 2510",
    "2514 2534 252C 251C 2500 253C 255E 255F 255A 2554 2569 2566 2560 2550 256C 2567",
    "2568 2564 2565 2559 2558 2552 2553 256B 256A 2518 250C 2588 2584 258C 2590 2580",
    "03B1 00DF 0393 03C0 03A3 03C3 00B5 03C4 03A6 0398 03A9 03B4 221E 03C6 03B5 2229",
    "2261 00B1 2265 2264 2320 2321 00F7 2248 00B0 2219 00B7 221A 207F 00B2 25A0 00A0"]

def cp862 : SingleByte :=
  .ofRows [
    "05D0 05D1 05D2 05D3 05D4 05D5 05D6 05D7 05D8 05D9 05DA 05DB 05DC 05DD 05DE 05DF",
    "05E0 05E1 05E2 05E3 05E4 05E5 05E6 05E7 05E8 05E9 05EA 00A2 00A3 00A5 20A7 0192",
    "00E1 00ED 00F3 00FA 00F1 00D1 00AA 00BA 00BF 2310 00AC 00BD 00BC 00A1 00AB 00BB",
    "2591 2592 2593 2502 2524 2561 2562 2556 2555 2563 2551 2557 255D 255C 255B 2510",
    "2514 2534 252C 251C 2500 253C 255E 255F 255A 2554 2569 2566 2560 2550 256C 2567",
    "2568 2564 2565 2559 2558 2552 2553 256B 256A 2518 250C 2588 2584 258C 2590 2580",
    "03B1 00DF 0393 03C0 03A3 03C3 00B5 03C4 03A6 0398 03A9 03B4 221E 03C6 03B5 2229",
    "2261 00B1 2265 2264 2320 2321 00F7 2248 00B0 2219 00B7 221A 207F 00B2 25A0 00A0"]

def cp863 : SingleByte :=
  .ofRows [
    "00C7 00FC 00E9 00E2 00C2 00E0 00B6 00E7 00EA 00EB 00E8 00EF 00EE 2017 00C0 00A7",
    "00C9 00C8 00CA 00F4 00CB 00CF 00FB 00F9 00A4 00D4 00DC 00A2 00A3 00D9 00DB 0192",
    "00A6 00B4 00F3 00FA 00A8 00B8 00B3 00AF 00CE 2310 00AC 00BD 00BC 00BE 00AB 00BB",
    "2591 2592 2593 2502 2524 2561 2562 2556 2555 2563 2551 2557 255D 255C 255B 2510",
    "2514 2534 252C 251C 2500 253C 255E 255F 255A 2554 2569 2566 2560 2550 256C 2567",
    "2568 2564 2565 2559 2558 2552 2553 256B 256A 2518 250C 2588 2584 258C 2590 2580",
    "03B1 00DF 0393 03C0 03A3 03C3 00B5 03C4 03A6 0398 03A9 03B4 221E 03C6 03B5 2229",
    "2261 00B1 2265 2264 2320 2321 00F7 2248 00B0 2219 00B7 221A 207F 00B2 25A0 00A0"]

def cp864 : SingleByte :=
  .ofRows [
    "0000 0001 0002 0003 0004 0005 0006 0007 0008 0009 000A 000B 000C 000D 000E 000F",
    "0010 0011 0012 0013 0014 0015 0016 0017 0018 0019 001A 001B 001C 001D 001E 001F",
    "0020 0021 0022 0023 0024 066A 0026 0027 0028 0029 002A 002B 002C 002D 002E 002F",
    "0030 0031 0032 0033 0034 0035 0036 0037 0038 0039 003A 003B 003C 003D 003E 003F",
    "0040 0041 0042 0043 0044 0045 0046 0047 0048 0049 004A 004B 004C 004D 004E 004F",
    "0050 0051 0052 0053 0054 0055 0056 0057 0058 0059 005A 005B 005C 005D 005E 005F",
    "0060 0061 0062 0063 0064 0065 0066 0067 0068 0069 006A 006B 006C 006D 006E 006F",
    "0070 0071 0072 0073 0074 0075 0076 0077 0078 0079 007A 007B 007C 007D 007E 007F",
    "00B0 00B7 2219 221A 2592 2500 2502 253C 2524 252C 251C 2534 2510 250C 2514 2518",
    "03B2 221E 03C6 00B1 00BD 00BC 2248 00AB 00BB FEF7 FEF8 ---- ---- FEFB FEFC ----",
    "00A0 00AD FE82 00A3 00A4 FE84 ---- ---- FE8E FE8F FE95 FE99 060C FE9D FEA1 FEA5",
    "0660 0661 0662 0663 0664 0665 0666 0667 0668 0669 FED1 061B FEB1 FEB5 FEB9 061F",
    "00A2 FE80 FE81 FE83 FE85 FECA FE8B FE8D FE91 FE93 FE97 FE9B FE9F FEA3 FEA7 FEA9",
    "FEAB FEAD FEAF FEB3 FEB7 FEBB FEBF FEC1 FEC5 FECB FECF 00A6 00AC 00F7 00D7 FEC9",
    "0640 FED3 FED7 FEDB FEDF FEE3 FEE7 FEEB FEED FEEF FEF3 FEBD FECC FECE FECD FEE1",
    "FE7D 0651 FEE5 FEE9 FEEC FEF0 FEF2 FED0 FED5 FEF5 FEF6 FEDD FED9 FEF1 25A0 ----"]

def cp865 : SingleByte :=
  .ofRows [
    "00C7 00FC 00E9 00E2 00E4 00E0 00E5 00E7 00EA 00EB 00E8 00EF 00EE 00EC 00C4 00C5",
    "00C9 00E6 00C6 00F4 00F6 00F2 00FB 00F9 00FF 00D6 00DC 00F8 00A3 00D8 20A7 0192",
    "00E1 00ED 00F3 00FA 00F1 00D1 00AA 00BA 00BF 2310 00AC 00BD 00BC 00A1 00AB 00A4",
    "2591 2592 2593 2502 2524 2561 2562 2556 2555 2563 2551 2557 255D 255C 255B 2510",
    "2514 2534 252C 251C 2500 253C 255E 255F 255A 2554 2569 2566 2560 2550 256C 2567",
    "2568 2564 2565 2559 2558 2552 2553 256B 256A 2518 250C 2588 2584 258C 2590 2580",
    "03B1 00DF 0393 03C0 03A3 03C3 00B5 03C4 03A6 0398 03A9 03B4 221E 03C6 03B5 2229",
    "2261 00B1 2265 2264 2320 2321 00F7 2248 00B0 2219 00B7 221A 207F 00B2 25A0 00A0"]

def cp866 : SingleByte :=
  .ofRows [
    "0410 0411 0412 0413 0414 0415 0416 0417 0418 0419 041A 041B 041C 041D 041E 041F",
    "0420 0421 0422 0423 0424 0425 0426 0427 0428 0429 042A 042B 042C 042D 042E 042F",
    "0430 0431 0432 0433 0434 0435 0436 0437 0438 0439 043A 043B 043C 043D 043E 043F",
    "2591 2592 2593 2502 2524 2561 2562 2556 2555 2563 2551 2557 255D 255C 255B 2510",
    "2514 2534 252C 251C 2500 253C 255E 255F 255A 2554 2569 2566 2560 2550 256C 2567",
    "2568 2564 2565 2559 2558 2552 2553 256B 256A 2518 250C 2588 2584 258C 2590 2580",
    "0440 0441 0442 0443 0444 0445 0446 0447 0448 0449 044A 044B 044C 044D 044E 044F",
    "0401 0451 0404 0454 0407 0457 040E 045E 00B0 2219 00B7 221A 2116 00A4 25A0 00A0"]

def cp869 : SingleByte :=
  .ofRows [
    "---- ---- ---- ---- ---- ---- 0386 ---- 00B7 00AC 00A6 2018 2019 0388 2015 0389",
    "038A 03AA 038C ---- ---- 038E 03AB 00A9 038F 00B2 00B3 03AC 00A3 03AD 03AE 03AF",
    "03CA 0390 03CC 03CD 0391 0392 0393 0394 0395 0396 0397 00BD 0398 0399 00AB 00BB",
    "2591 2592 2593 2502 2524 039A 039B 039C 039D 2563 2551 2557 255D 039E 039F 2510",
    "2514 2534 252C 251C 2500 253C 03A0 03A1 255A 2554 2569 2566 2560 2550 256C 03A3",
    "03A4 03A5 03A6 03A7 03A8 03A9 03B1 03B2 03B3 2518 250C 2588 2584 03B4 03B5 2580",
    "03B6 03B7 03B8 03B9 03BA 03BB 03BC 03BD 03BE 03BF 03C0 03C1 03C3 03C2 03C4 0384",
    "00AD 00B1 03C5 03C6 03C7 00A7 03C8 0385 00B0 00A8 03C9 03CB 03B0 03CE 25A0 00A0"]

def cp874 : SingleByte :=
  .ofRows [
    "20AC ---- ---- ---- ---- 2026 ---- ---- ---- ---- ---- ---- ---- ---- ---- ----",
    "---- 2018 2019 201C 201D 2022 2013 2014 ---- ---- ---- ---- ---- ---- ---- ----",
    "00A0 0E01 0E02 0E03 0E04 0E05 0E06 0E07 0E08 0E09 0E0A 0E0B 0E0C 0E0D 0E0E 0E0F",
    "0E10 0E11 0E12 0E13 0E14 0E15 0E16 0E17 0E18 0E19 0E1A 0E1B 0E1C 0E1D 0E1E 0E1F",
    "0E20 0E21 0E22 0E23 0E24 0E25 0E26 0E27 0E28 0E29 0E2A 0E2B 0E2C 0E2D 0E2E 0E2F",
    "0E30 0E31 0E32 0E33 0E34 0E35 0E36 0E37 0E38 0E39 0E3A ---- ---- ---- ---- 0E3F",
    "0E40 0E41 0E42 0E43 0E44 0E45 0E46 0E47 0E48 0E49 0E4A 0E4B 0E4C 0E4D 0E4E 0E4F",
    "0E50 0E51 0E52 0E53 0E54 0E55 0E56 0E57 0E58 0E59 0E5A 0E5B ---- ---- ---- ----"]

def cp875 : SingleByte :=
  .ofRows [
    "0000 0001 0002 0003 009C 0009 0086 007F 0097 008D 008E 000B 000C 000D 000E 000F",
    "0010 0011 0012 0013 009D 0085 0008 0087 0018 0019 0092 008F 001C 001D 001E 001F",
    "0080 0081 0082 0083 0084 000A 0017 001B 0088 0089 008A 008B 008C 0005 0006 0007",
    "0090 0091 0016 0093 0094 0095 0096 0004 0098 0099 009A 009B 0014 0015 009E 001A",
    "0020 0391 0392 0393 0394 0395 0396 0397 0398 0399 005B 002E 003C 0028 002B 0021",
    "0026 039A 039B 039C 039D 039E 039F 03A0 03A1 03A3 005D 0024 002A 0029 003B 005E",
    "002D 002F 03A4 03A5 03A6 03A7 03A8 03A9 03AA 03AB 007C 002C 0025 005F 003E 003F",
    "00A8 0386 0388 0389 00A0 038A 038C 038E 038F 0060 003A 0023 0040 0027 003D 0022",
    "0385 0061 0062 0063 0064 0065 0066 0067 0068 0069 03B1 03B2 03B3 03B4 03B5 03B6",
    "00B0 006A 006B 006C 006D 006E 006F 0070 0071 0072 03B7 03B8 03B9 03BA 03BB 03BC",
    "00B4 007E 0073 0074 0075 0076 0077 0078 0079 007A 03BD 03BE 03BF 03C0 03C1 03C3",
    "00A3 03AC 03AD 03AE 03CA 03AF 03CC 03CD 03CB 03CE 03C2 03C4 03C5 03C6 03C7 03C8",
    "007B 0041 0042 0043 0044 0045 0046 0047 0048 0049 00AD 03C9 0390 03B0 2018 2015",
    "007D 004A 004B 004C 004D 004E 004F 0050 0051 0052 00B1 00BD 001A 0387 2019 00A6",
    "005C 001A 0053 0054 0055 0056 0057 0058 0059 005A 00B2 00A7 001A 001A 00AB 00AC",
    "0030 0031 0032 0033 0034 0035 0036 0037 0038 0039 00B3 00A9 001A 001A 00BB 009F"]

def hpRoman8 : SingleByte :=
  .ofRows [
    "0080 0081 0082 0083 0084 0085 0086 0087 0088 0089 008A 008B 008C 008D 008E 008F",
    "0090 0091 0092 0093 0094 0095 0096 0097 0098 0099 009A 009B 009C 009D 009E 009F",
    "00A0 00C0 00C2 00C8 00CA 00CB 00CE 00CF 00B4 02CB 02C6 00A8 02DC 00D9 00DB 20A4",
    "00AF 00DD 00FD 00B0 00C7 00E7 00D1 00F1 00A1 00BF 00A4 00A3 00A5 00A7 0192 00A2",
    "00E2 00EA 00F4 00FB 00E1 00E9 00F3 00FA 00E0 00E8 00F2 00F9 00E4 00EB 00F6 00FC",
    "00C5 00EE 00D8 00C6 00E5 00ED 00F8 00E6 00C4 00EC 00D6 00DC 00C9 00EF 00DF 00D4",
    "00C1 00C3 00E3 00D0 00F0 00CD 00CC 00D3 00D2 00D5 00F5 0160 0161 00DA 0178 00FF",
    "00DE 00FE 00B7 00B5 00B6 00BE 2014 00BC 00BD 00AA 00BA 00AB 25A0 00BB 00B1 ----"]

def iso8859_10 : SingleByte :=
  .ofRows [
    "0080 0081 0082 0083 0084 0085 0086 0087 0088 0089 008A 008B 008C 008D 008E 008F",
    "0090 0091 0092 0093 0094 0095 0096 0097 0098 0099 009A 009B 009C 009D 009E 009F",
    "00A0 0104 0112 0122 012A 0128 0136 00A7 013B 0110 0160 0166 017D 00AD 016A 014A",
    "00B0 0105 0113 0123 012B 0129 0137 00B7 013C 0111 0161 0167 017E 2015 016B 014B",
    "0100 00C1 00C2 00C3 00C4 00C5 00C6 012E 010C 00C9 0118 00CB 0116 00CD 00CE 00CF",
    "00D0 0145 014C 00D3 00D4 00D5 00D6 0168 00D8 0172 00DA 00DB 00DC 00DD 00DE 00DF",
    "0101 00E1 00E2 00E3 00E4 00E5 00E6 012F 010D 00E9 0119 00EB 0117 00ED 00EE 00EF",
    "00F0 0146 014D 00F3 00F4 00F5 00F6 0169 00F8 0173 00FA 00FB 00FC 00FD 00FE 0138"]

def iso8859_11 : SingleByte :=
  .ofRows [
    "0080 0081 0082 0083 0084 0085 0086 0087 0088 0089 008A 008B 008C 008D 008E 008F",
    "0090 0091 0092 0093 0094 0095 0096 0097 0098 0099 009A 009B 009C 009D 009E 009F",
    "00A0 0E01 0E02 0E03 0E04 0E05 0E06 0E07 0E08 0E09 0E0A 0E0B 0E0C 0E0D 0E0E 0E0F",
    "0E10 0E11 0E12 0E13 0E14 0E15 0E16 0E17 0E18 0E19 0E1A 0E1B 0E1C 0E1D 0E1E 0E1F",
    "0E20 0E21 0E22 0E23 0E24 0E25 0E26 0E27 0E28 0E29 0E2A 0E2B 0E2C 0E2D 0E2E 0E2F",
    "0E30 0E31 0E32 0E33 0E34 0E35 0E36 0E37 0E38 0E39 0E3A ---- ---- ---- ---- 0E3F",
    "0E40 0E41 0E42 0E43 0E44 0E45 0E46 0E47 0E48 0E49 0E4A 0E4B 0E4C 0E4D 0E4E 0E4F",
    "0E50 0E51 0E52 0E53 0E54 0E55 0E56 0E57 0E58 0E59 0E5A 0E5B ---- ---- ---- ----"]

def iso8859_13 : SingleByte :=
  .ofRows [
    "0080 0081 0082 0083 0084 0085 0086 0087 0088 0089 008A 008B 008C 008D 008E 008F",
    "0090 0091 0092 0093 0094 0095 0096 0097 0098 0099 009A 009B 009C 009D 009E 009F",
    "00A0 201D 00A2 00A3 00A4 201E 00A6 00A7 00D8 00A9 0156 00AB 00AC 00AD 00AE 00C6",
    "00B0 00B1 00B2 00B3 201C 00B5 00B6 00B7 00F8 00B9 0157 00BB 00BC 00BD 00BE 00E6",
    "0104 012E 0100 0106 00C4 00C5 0118 0112 010C 00C9 0179 0116 0122 0136 012A 013B",
    "0160 0143 0145 00D3 014C 00D5 00D6 00D7 0172 0141 015A 016A 00DC 017B 017D 00DF",
    "0105 012F 0101 0107 00E4 00E5 0119 0113 010D 00E9 017A 0117 0123 0137 012B 013C",
    "0161 0144 0146 00F3 014D 00F5 00F6 00F7 0173 0142 015B 016B 00FC 017C 017E 2019"]

def iso8859_14 : SingleByte :=
  .ofRows [
    "0080 0081 0082 0083 0084 0085 0086 0087 0088 0089 008A 008B 008C 008D 008E 008F",
    "0090 0091 0092 0093 0094 0095 0096 0097 0098 0099 009A 009B 009C 009D 009E 009F",
    "00A0 1E02 1E03 00A3 010A 010B 1E0A 00A7 1E80 00A9 1E82 1E0B 1EF2 00AD 00AE 0178",
    "1E1E 1E1F 0120 0121 1E40 1E41 00B6 1E56 1E81 1E57 1E83 1E60 1EF3 1E84 1E85 1E61",
    "00C0 00C1 00C2 00C3 00C4 00C5 00C6 00C7 00C8 00C9 00CA 00CB 00CC 00CD 00CE 00CF",
    "0174 00D1 00D2 00D3 00D4 00D5 00D6 1E6A 00D8 00D9 00DA 00DB 00DC 00DD 0176 00DF",
    "00E0 00E1 00E2 00E3 00E4 00E5 00E6 00E7 00E8 00E9 00EA 00EB 00EC 00ED 00EE 00EF",
    "0175 00F1 00F2 00F3 00F4 00F5 00F6 1E6B 00F8 00F9 00FA 00FB 00FC 00FD 0177 00FF"]

def iso8859_15 : SingleByte :=
  .ofRows [
    "0080 0081 0082 0083 0084 0085 0086 0087 0088 0089 008A 008B 008C 008D 008E 008F",
    "0090 0091 0092 0093 0094 0095 0096 0097 0098 0099 009A 009B 009C 009D 009E 009F",
    "00A0 00A1 00A2 00A3 20AC 00A5 0160 00A7 0161 00A9 00AA 00AB 00AC 00AD 00AE 00AF",
    "00B0 00B1 00B2 00B3 017D 00B5 00B6 00B7 017E 00B9 00BA 00BB 0152 0153 0178 00BF",
    "00C0 00C1 00C2 00C3 00C4 00C5 00C6 00C7 00C8 00C9 00CA 00CB 00CC 00CD 00CE 00CF",
    "00D0 00D1 00D2 00D3 00D4 00D5 00D6 00D7 00D8 00D9 00DA 00DB 00DC 00DD 00DE 00DF",
    "00E0 00E1 00E2 00E3 00E4 00E5 00E6 00E7 00E8 00E9 00EA 00EB 00EC 00ED 00EE 00EF",
    "00F0 00F1 00F2 00F3 00F4 00F5 00F6 00F7 00F8 00F9 00FA 00FB 00FC 00FD 00FE 00FF"]

def iso8859_16 : SingleByte :=
  .ofRows [
    "0080 0081 0082 0083 0084 0085 0086 0087 0088 0089 008A 008B 008C 008D 008E 008F",
    "0090 0091 0092 0093 0094 0095 0096 0097 0098 0099 009A 009B 009C 009D 009E 009F",
    "00A0 0104 0105 0141 20AC 201E 0160 00A7 0161 00A9 0218 00AB 0179 00AD 017A 017B",
    "00B0 00B1 010C 0142 017D 201D 00B6 00B7 017E 010D 0219 00BB 0152 0153 0178 017C",
    "00C0 00C1 00C2 0102 00C4 0106 00C6 00C7 00C8 00C9 00CA 00CB 00CC 00CD 00CE 00CF",
    "0110 0143 00D2 00D3 00D4 0150 00D6 015A 0170 00D9 00DA 00DB 00DC 0118 021A 00DF",
    "00E0 00E1 00E2 0103 00E4 0107 00E6 00E7 00E8 00E9 00EA 00EB 00EC 00ED 00EE 00EF",
    "0111 0144 00F2 00F3 00F4 0151 00F6 015B 0171 00F9 00FA 00FB 00FC 0119 021B 00FF"]

def iso8859_2 : SingleByte :=
  .ofRows [
    "0080 0081 0082 0083 0084 0085 0086 0087 0088 0089 008A 008B 008C 008D 008E 008F",
    "0090 0091 0092 0093 0094 0095 0096 0097 0098 0099 009A 009B 009C 009D 009E 009F",
    "00A0 0104 02D8 0141 00A4 013D 015A 00A7 00A8 0160 015E 0164 0179 00AD 017D 017B",
    "00B0 0105 02DB 0142 00B4 013E 015B 02C7 00B8 0161 015F 0165 017A 02DD 017E 017C",
    "0154 00C1 00C2 0102 00C4 0139 0106 00C7 010C 00C9 0118 00CB 011A 00CD 00CE 010E",
    "0110 0143 0147 00D3 00D4 0150 00D6 00D7 0158 016E 00DA 0170 00DC 00DD 0162 00DF",
    "0155 00E1 00E2 0103 00E4 013A 0107 00E7 010D 00E9 0119 00EB 011B 00ED 00EE 010F",
    "0111 0144 0148 00F3 00F4 0151 00F6 00F7 0159 016F 00FA 0171 00FC 00FD 0163 02D9"]

def iso8859_3 : SingleByte :=
  .ofRows [
    "0080 0081 0082 0083 0084 0085 0086 0087 0088 0089 008A 008B 008C 008D 008E 008F",
    "0090 0091 0092 0093 0094 0095 0096 0097 0098 0099 009A 009B 009C 009D 009E 009F",
    "00A0 0126 02D8 00A3 00A4 ---- 0124 00A7 00A8 0130 015E 011E 0134 00AD ---- 017B",
    "00B0 0127 00B2 00B3 00B4 00B5 0125 00B7 00B8 0131 015F 011F 0135 00BD ---- 017C",
    "00C0 00C1 00C2 ---- 00C4 010A 0108 00C7 00C8 00C9 00CA 00CB 00CC 00CD 00CE 00CF",
    "---- 00D1 00D2 00D3 00D4 0120 00D6 00D7 011C 00D9 00DA 00DB 00DC 016C 015C 00DF",
    "00E0 00E1 00E2 ---- 00E4 010B 0109 00E7 00E8 00E9 00EA 00EB 00EC 00ED 00EE 00EF",
    "---- 00F1 00F2 00F3 00F4 0121 00F6 00F7 011D 00F9 00FA 00FB 00FC 016D 015D 02D9"]

def iso8859_4 : SingleByte :=
  .ofRows [
    "0080 0081 0082 0083 0084 0085 0086 0087 0088 0089 008A 008B 008C 008D 008E 008F",
    "0090 0091 0092 0093 0094 0095 0096 0097 0098 0099 009A 009B 009C 009D 009E 009F",
    "00A0 0104 0138 0156 00A4 0128 013B 00A7 00A8 0160 0112 0122 0166 00AD 017D 00AF",
    "00B0 0105 02DB 0157 00B4 0129 013C 02C7 00B8 0161 0113 0123 0167 014A 017E 014B",
    "0100 00C1 00C2 00C3 00C4 00C5 00C6 012E 010C 00C9 0118 00CB 0116 00CD 00CE 012A",
    "0110 0145 014C 0136 00D4 00D5 00D6 00D7 00D8 0172 00DA 00DB 00DC 0168 016A 00DF",
    "0101 00E1 00E2 00E3 00E4 00E5 00E6 012F 010D 00E9 0119 00EB 0117 00ED 00EE 012B",
    "0111 0146 014D 0137 00F4 00F5 00F6 00F7 00F8 0173 00FA 00FB 00FC 0169 016B 02D9"]

def iso8859_5 : SingleByte :=
  .ofRows [
    "0080 0081 0082 0083 0084 0085 0086 0087 0088 0089 008A 008B 008C 008D 008E 008F",
    "0090 0091 0092 0093 0094 0095 0096 0097 0098 0099 009A 009B 009C 009D 009E 009F",
    "00A0 0401 0402 0403 0404 0405 0406 0407 0408 0409 040A 040B 040C 00AD 040E 040F",
    "0410 0411 0412 0413 0414 0415 0416 0417 0418 0419 041A 041B 041C 041D 041E 041F",
    "0420 0421 0422 0423 0424 0425 0426 0427 0428 0429 042A 042B 042C 042D 042E 042F",
    "0430 0431 0432 0433 0434 0435 0436 0437 0438 0439 043A 043B 043C 043D 043E 043F",
    "0440 0441 0442 0443 0444 0445 0446 0447 0448 0449 044A 044B 044C 044D 044E 044F",
    "2116 0451 0452 0453 0454 0455 0456 0457 0458 0459 045A 045B 045C 00A7 045E 045F"]

def iso8859_6 : SingleByte :=
  .ofRows [
    "0080 0081 0082 0083 0084 0085 0086 0087 0088 0089 008A 008B 008C 008D 008E 008F",
    "0090 0091 0092 0093 0094 0095 0096 0097 0098 0099 009A 009B 009C 009D 009E 009F",
    "00A0 ---- ---- ---- 00A4 ---- ---- ---- ---- ---- ---- ---- 060C 00AD ---- ----",
    "---- ---- ---- ---- ---- ---- ---- ---- ---- ---- ---- 061B ---- ---- ---- 061F",
    "---- 0621 0622 0623 0624 0625 0626 0627 0628 0629 062A 062B 062C 062D 062E 062F",
    "0630 0631 0632 0633 0634 0635 0636 0637 0638 0639 063A ---- ---- ---- ---- ----",
    "0640 0641 0642 0643 0644 0645 0646 0647 0648 0649 064A 064B 064C 064D 064E 064F",
    "0650 0651 0652 ---- ---- ---- ---- ---- ---- ---- ---- ---- ---- ---- ---- ----"]

def iso8859_7 : SingleByte :=
  .ofRows [
    "0080 0081 0082 0083 0084 0085 0086 0087 0088 0089 008A 008B 008C 008D 008E 008F",
    "0090 0091 0092 0093 0094 0095 0096 0097 0098 0099 009A 009B 009C 009D 009E 009F",
    "00A0 2018 2019 00A3 20AC 20AF 00A6 00A7 00A8 00A9 037A 00AB 00AC 00AD ---- 2015",
    "00B0 00B1 00B2 00B3 0384 0385 0386 00B7 0388 0389 038A 00BB 038C 00BD 038E 038F",
    "0390 0391 0392 0393 0394 0395 0396 0397 0398 0399 039A 039B 039C 039D 039E 039F",
    "03A0 03A1 ---- 03A3 03A4 03A5 03A6 03A7 03A8 03A9 03AA 03AB 03AC 03AD 03AE 03AF",
    "03B0 03B1 03B2 03B3 03B4 03B5 03B6 03B7 03B8 03B9 03BA 03BB 03BC 03BD 03BE 03BF",
    "03C0 03C1 03C2 03C3 03C4 03C5 03C6 03C7 03C8 03C9 03CA 03CB 03CC 03CD 03CE ----"]

def iso8859_8 : SingleByte :=
  .ofRows [
    "0080 0081 0082 0083 0084 0085 0086 0087 0088 0089 008A 008B 008C 008D 008E 008F",
    "0090 0091 0092 0093 0094 0095 0096 0097 0098 0099 009A 009B 009C 009D 009E 009F",
    "00A0 ---- 00A2 00A3 00A4 00A5 00A6 00A7 00A8 00A9 00D7 00AB 00AC 00AD 00AE 00AF",
    "00B0 00B1 00B2 00B3 00B4 00B5 00B6 00B7 00B8 00B9 00F7 00BB 00BC 00BD 00BE ----",
    "---- ---- ---- ---- ---- ---- ---- ---- ---- ---- ---- ---- ---- ---- ---- ----",
    "---- ---- ---- ---- ---- ---- ---- ---- ---- ---- ---- ---- ---- ---- ---- 2017",
    "05D0 05D1 05D2 05D3 05D4 05D5 05D6 05D7 05D8 05D9 05DA 05DB 05DC 05DD 05DE 05DF",
    "05E0 05E1 05E2 05E3 05E4 05E5 05E6 05E7 05E8 05E9 05EA ---- ---- 200E 200F ----"]

def iso8859_9 : SingleByte :=
  .ofRows [
    "0080 0081 0082 0083 0084 0085 0086 0087 0088 0089 008A 008B 008C 008D 008E 008F",
    "0090 0091 0092 0093 0094 0095 0096 0097 0098 0099 009A 009B 009C 009D 009E 009F",
    "00A0 00A1 00A2 00A3 00A4 00A5 00A6 00A7 00A8 00A9 00AA 00AB 00AC 00AD 00AE 00AF",
    "00B0 00B1 00B2 00B3 00B4 00B5 00B6 00B7 00B8 00B9 00BA 00BB 00BC 00BD 00BE 00BF",
    "00C0 00C1 00C2 00C3 00C4 00C5 00C6 00C7 00C8 00C9 00CA 00CB 00CC 00CD 00CE 00CF",
    "011E 00D1 00D2 00D3 00D4 00D5 00D6 00D7 00D8 00D9 00DA 00DB 00DC 0130 015E 00DF",
    "00E0 00E1 00E2 00E3 00E4 00E5 00E6 00E7 00E8 00E9 00EA 00EB 00EC 00ED 00EE 00EF",
    "011F 00F1 00F2 00F3 00F4 00F5 00F6 00F7 00F8 00F9 00FA 00FB 00FC 0131 015F 00FF"]

def koi8R : SingleByte :=
  .ofRows [
    "2500 2502 250C 2510 2514 2518 251C 2524 252C 2534 253C 2580 2584 2588 258C 2590",
    "2591 2592 2593 2320 25A0 2219 221A 2248 2264 2265 00A0 2321 00B0 00B2 00B7 00F7",
    "2550 2551 2552 0451 2553 2554 2555 2556 2557 2558 2559 255A 255B 255C 255D 255E",
    "255F 2560 2561 0401 2562 2563 2564 2565 2566 2567 2568 2569 256A 256B 256C 00A9",
    "044E 0430 0431 0446 0434 0435 0444 0433 0445 0438 0439 043A 043B 043C 043D 043E",
    "043F 044F 0440 0441 0442 0443 0436 0432 044C 044B 0437 0448 044D 0449 0447 044A",
    "042E 0410 0411 0426 0414 0415 0424 0413 0425 0418 0419 041A 041B 041C 041D 041E",
    "041F 042F 0420 0421 0422 0423 0416 0412 042C 042B 0417 0428 042D 0429 0427 042A"]

def koi8T : SingleByte :=
  .ofRows [
    "049B 0493 201A 0492 201E 2026 2020 2021 ---- 2030 04B3 2039 04B2 04B7 04B6 ----",
    "049A 2018 2019 201C 201D 2022 2013 2014 ---- 2122 ---- 203A ---- ---- ---- ----",
    "---- 04EF 04EE 0451 00A4 04E3 00A6 00A7 ---- ---- ---- 00AB 00AC 00AD 00AE ----",
    "00B0 00B1 00B2 0401 ---- 04E2 00B6 00B7 ---- 2116 ---- 00BB ---- ---- ---- 00A9",
    "044E 0430 0431 0446 0434 0435 0444 0433 0445 0438 0439 043A 043B 043C 043D 043E",
    "043F 044F 0440 0441 0442 0443 0436 0432 044C 044B 0437 0448 044D 0449 0447 044A",
    "042E 0410 0411 0426 0414 0415 0424 0413 0425 0418 0419 041A 041B 041C 041D 041E",
    "041F 042F 0420 0421 0422 0423 0416 0412 042C 042B 0417 0428 042D 0429 0427 042A"]

def koi8U : SingleByte :=
  .ofRows [
    "2500 2502 250C 2510 2514 2518 251C 2524 252C 2534 253C 2580 2584 2588 258C 2590",
    "2591 2592 2593 2320 25A0 2219 221A 2248 2264 2265 00A0 2321 00B0 00B2 00B7 00F7",
    "2550 2551 2552 0451 0454 2554 0456 0457 2557 2558 2559 255A 255B 0491 255D 255E",
    "255F 2560 2561 0401 0404 2563 0406 0407 2566 2567 2568 2569 256A 0490 256C 00A9",
    "044E 0430 0431 0446 0434 0435 0444 0433 0445 0438 0439 043A 043B 043C 043D 043E",
    "043F 044F 0440 0441 0442 0443 0436 0432 044C 044B 0437 0448 044D 0449 0447 044A",
    "042E 0410 0411 0426 0414 0415 0424 0413 0425 0418 0419 041A 041B 041C 041D 041E",
    "041F 042F 0420 0421 0422 0423 0416 0412 042C 042B 0417 0428 042D 0429 0427 042A"]

def kz1048 : SingleByte :=
  .ofRows [
    "0402 0403 201A 0453 201E 2026 2020 2021 20AC 2030 0409 2039 040A 049A 04BA 040F",
    "0452 2018 2019 201C 201D 2022 2013 2014 ---- 2122 0459 203A 045A 049B 04BB 045F",
    "00A0 04B0 04B1 04D8 00A4 04E8 00A6 00A7 0401 00A9 0492 00AB 00AC 00AD 00AE 04AE",
    "00B0 00B1 0406 0456 04E9 00B5 00B6 00B7 0451 2116 0493 00BB 04D9 04A2 04A3 04AF",
    "0410 0411 0412 0413 0414 0415 0416 0417 0418 0419 041A 041B 041C 041D 041E 041F",
    "0420 0421 0422 0423 0424 0425 0426 0427 0428 0429 042A 042B 042C 042D 042E 042F",
    "0430 0431 0432 0433 0434 0435 0436 0437 0438 0439 043A 043B 043C 043D 043E 043F",
    "0440 0441 0442 0443 0444 0445 0446 0447 0448 0449 044A 044B 044C 044D 044E 044F"]

def macArabic : SingleByte :=
  .ofRows [
    "00C4 00A0 00C7 00C9 00D1 00D6 00DC 00E1 00E0 00E2 00E4 06BA 00AB 00E7 00E9 00E8",
    "00EA 00EB 00ED 2026 00EE 00EF 00F1 00F3 00BB 00F4 00F6 00F7 00FA 00F9 00FB 00FC",
    "0020 0021 0022 0023 0024 066A 0026 0027 0028 0029 002A 002B 060C 002D 002E 002F",
    "0660 0661 0662 0663 0664 0665 0666 0667 0668 0669 003A 061B 003C 003D 003E 061F",
    "274A 0621 0622 0623 0624 0625 0626 0627 0628 0629 062A 062B 062C 062D 062E 062F",
    "0630 0631 0632 0633 0634 0635 0636 0637 0638 0639 063A 005B 005C 005D 005E 005F",
    "0640 0641 0642 0643 0644 0645 0646 0647 0648 0649 064A 064B 064C 064D 064E 064F",
    "0650 0651 0652 067E 0679 0686 06D5 06A4 06AF 0688 0691 007B 007C 007D 0698 06D2"]

def macCroatian : SingleByte :=
  .ofRows [
    "00C4 00C5 00C7 00C9 00D1 00D6 00DC 00E1 00E0 00E2 00E4 00E3 00E5 00E7 00E9 00E8",
    "00EA 00EB 00ED 00EC 00EE 00EF 00F1 00F3 00F2 00F4 00F6 00F5 00FA 00F9 00FB 00FC",
    "2020 00B0 00A2 00A3 00A7 2022 00B6 00DF 00AE 0160 2122 00B4 00A8 2260 017D 00D8",
    "221E 00B1 2264 2265 2206 00B5 2202 2211 220F 0161 222B 00AA 00BA 03A9 017E 00F8",
    "00BF 00A1 00AC 221A 0192 2248 0106 00AB 010C 2026 00A0 00C0 00C3 00D5 0152 0153",
    "0110 2014 201C 201D 2018 2019 00F7 25CA F8FF 00A9 2044 20AC 2039 203A 00C6 00BB",
    "2013 00B7 201A 201E 2030 00C2 0107 00C1 010D 00C8 00CD 00CE 00CF 00CC 00D3 00D4",
    "0111 00D2 00DA 00DB 00D9 0131 02C6 02DC 00AF 03C0 00CB 02DA 00B8 00CA 00E6 02C7"]

def macCyrillic : SingleByte :=
  .ofRows [
    "0410 0411 0412 0413 0414 0415 0416 0417 0418 0419 041A 041B 041C 041D 041E 041F",
    "0420 0421 0422 0423 0424 0425 0426 0427 0428 0429 042A 042B 042C 042D 042E 042F",
    "2020 00B0 0490 00A3 00A7 2022 00B6 0406 00AE 00A9 2122 0402 0452 2260 0403 0453",
    "221E 00B1 2264 2265 0456 00B5 0491 0408 0404 0454 0407 0457 0409 0459 040A 045A",
    "0458 0405 00AC 221A 0192 2248 2206 00AB 00BB 2026 00A0 040B 045B 040C 045C 0455",
    "2013 2014 201C 201D 2018 2019 00F7 201E 040E 045E 040F 045F 2116 0401 0451 044F",
    "0430 0431 0432 0433 0434 0435 0436 0437 0438 0439 043A 043B 043C 043D 043E 043F",
    "0440 0441 0442 0443 0444 0445 0446 0447 0448 0449 044A 044B 044C 044D 044E 20AC"]

def macFarsi : SingleByte :=
  .ofRows [
    "00C4 00A0 00C7 00C9 00D1 00D6 00DC 00E1 00E0 00E2 00E4 06BA 00AB 00E7 00E9 00E8",
    "00EA 00EB 00ED 2026 00EE 00EF 00F1 00F3 00BB 00F4 00F6 00F7 00FA 00F9 00FB 00FC",
    "0020 0021 0022 0023 0024 066A 0026 0027 0028 0029 002A 002B 060C 002D 002E 002F",
    "06F0 06F1 06F2 06F3 06F4 06F5 06F6 06F7 06F8 06F9 003A 061B 003C 003D 003E 061F",
    "274A 0621 0622 0623 0624 0625 0626 0627 0628 0629 062A 062B 062C 062D 062E 062F",
    "0630 0631 0632 0633 0634 0635 0636 0637 0638 0639 063A 005B 005C 005D 005E 005F",
    "0640 0641 0642 0643 0644 0645 0646 0647 0648 0649 064A 064B 064C 064D 064E 064F",
    "0650 0651 0652 067E 0679 0686 06D5 06A4 06AF 0688 0691 007B 007C 007D 0698 06D2"]

def macGreek : SingleByte :=
  .ofRows [
    "00C4 00B9 00B2 00C9 00B3 00D6 00DC 0385 00E0 00E2 00E4 0384 00A8 00E7 00E9 00E8",
    "00EA 00EB 00A3 2122 00EE 00EF 2022 00BD 2030 00F4 00F6 00A6 20AC 00F9 00FB 00FC",
    "2020 0393 0394 0398 039B 039E 03A0 00DF 00AE 00A9 03A3 03AA 00A7 2260 00B0 00B7",
    "0391 00B1 2264 2265 00A5 0392 0395 0396 0397 0399 039A 039C 03A6 03AB 03A8 03A9",
    "03AC 039D 00AC 039F 03A1 2248 03A4 00AB 00BB 2026 00A0 03A5 03A7 0386 0388 0153",
    "2013 2015 201C 201D 2018 2019 00F7 0389 038A 038C 038E 03AD 03AE 03AF 03CC 038F",
    "03CD 03B1 03B2 03C8 03B4 03B5 03C6 03B3 03B7 03B9 03BE 03BA 03BB 03BC 03BD 03BF",
    "03C0 03CE 03C1 03C3 03C4 03B8 03C9 03C2 03C7 03C5 03B6 03CA 03CB 0390 03B0 00AD"]

def macIceland : SingleByte :=
  .ofRows [
    "00C4 00C5 00C7 00C9 00D1 00D6 00DC 00E1 00E0 00E2 00E4 00E3 00E5 00E7 00E9 00E8",
    "00EA 00EB 00ED 00EC 00EE 00EF 00F1 00F3 00F2 00F4 00F6 00F5 00FA 00F9 00FB 00FC",
    "00DD 00B0 00A2 00A3 00A7 2022 00B6 00DF 00AE 00A9 2122 00B4 00A8 2260 00C6 00D8",
    "221E 00B1 2264 2265 00A5 00B5 2202 2211 220F 03C0 222B 00AA 00BA 03A9 00E6 00F8",
    "00BF 00A1 00AC 221A 0192 2248 2206 00AB 00BB 2026 00A0 00C0 00C3 00D5 0152 0153",
    "2013 2014 201C 201D 2018 2019 00F7 25CA 00FF 0178 2044 20AC 00D0 00F0 00DE 00FE",
    "00FD 00B7 201A 201E 2030 00C2 00CA 00C1 00CB 00C8 00CD 00CE 00CF 00CC 00D3 00D4",
    "F8FF 00D2 00DA 00DB 00D9 0131 02C6 02DC 00AF 02D8 02D9 02DA 00B8 02DD 02DB 02C7"]

def macLatin2 : SingleByte :=
  .ofRows [
    "00C4 0100 0101 00C9 0104 00D6 00DC 00E1 0105 010C 00E4 010D 0106 0107 00E9 0179",
    "017A 010E 00ED 010F 0112 0113 0116 00F3 0117 00F4 00F6 00F5 00FA 011A 011B 00FC",
    "2020 00B0 0118 00A3 00A7 2022 00B6 00DF 00AE 00A9 2122 0119 00A8 2260 0123 012E",
    "012F 012A 2264 2265 012B 0136 2202 2211 0142 013B 013C 013D 013E 0139 013A 0145",
    "0146 0143 00AC 221A 0144 0147 2206 00AB 00BB 2026 00A0 0148 0150 00D5 0151 014C",
    "2013 2014 201C 201D 2018 2019 00F7 25CA 014D 0154 0155 0158 2039 203A 0159 0156",
    "0157 0160 201A 201E 0161 015A 015B 00C1 0164 0165 00CD 017D 017E 016A 00D3 00D4",
    "016B 016E 00DA 016F 0170 0171 0172 0173 00DD 00FD 0137 017B 0141 017C 0122 02C7"]

def macRoman : SingleByte :=
  .ofRows [
    "00C4 00C5 00C7 00C9 00D1 00D6 00DC 00E1 00E0 00E2 00E4 00E3 00E5 00E7 00E9 00E8",
    "00EA 00EB 00ED 00EC 00EE 00EF 00F1 00F3 00F2 00F4 00F6 00F5 00FA 00F9 00FB 00FC",
    "2020 00B0 00A2 00A3 00A7 2022 00B6 00DF 00AE 00A9 2122 00B4 00A8 2260 00C6 00D8",
    "221E 00B1 2264 2265 00A5 00B5 2202 2211 220F 03C0 222B 00AA 00BA 03A9 00E6 00F8",
    "00BF 00A1 00AC 221A 0192 2248 2206 00AB 00BB 2026 00A0 00C0 00C3 00D5 0152 0153",
    "2013 2014 201C 201D 2018 2019 00F7 25CA 00FF 0178 2044 20AC 2039 203A FB01 FB02",
    "2021 00B7 201A 201E 2030 00C2 00CA 00C1 00CB 00C8 00CD 00CE 00CF 00CC 00D3 00D4",
    "F8FF 00D2 00DA 00DB 00D9 0131 02C6 02DC 00AF 02D8 02D9 02DA 00B8 02DD 02DB 02C7"]

def macRomanian : SingleByte :=
  .ofRows [
    "00C4 00C5 00C7 00C9 00D1 00D6 00DC 00E1 00E0 00E2 00E4 00E3 00E5 00E7 00E9 00E8",
    "00EA 00EB 00ED 00EC 00EE 00EF 00F1 00F3 00F2 00F4 00F6 00F5 00FA 00F9 00FB 00FC",
    "2020 00B0 00A2 00A3 00A7 2022 00B6 00DF 00AE 00A9 2122 00B4 00A8 2260 0102 0218",
    "221E 00B1 2264 2265 00A5 00B5 2202 2211 220F 03C0 222B 00AA 00BA 03A9 0103 0219",
    "00BF 00A1 00AC 221A 0192 2248 2206 00AB 00BB 2026 00A0 00C0 00C3 00D5 0152 0153",
    "2013 2014 201C 201D 2018 2019 00F7 25CA 00FF 0178 2044 20AC 2039 203A 021A 021B",
    "2021 00B7 201A 201E 2030 00C2 00CA 00C1 00CB 00C8 00CD 00CE 00CF 00CC 00D3 00D4",
    "F8FF 00D2 00DA 00DB 00D9 0131 02C6 02DC 00AF 02D8 02D9 02DA 00B8 02DD 02DB 02C7"]

def macTurkish : SingleByte :=
  .ofRows [
    "00C4 00C5 00C7 00C9 00D1 00D6 00DC 00E1 00E0 00E2 00E4 00E3 00E5 00E7 00E9 00E8",
    "00EA 00EB 00ED 00EC 00EE 00EF 00F1 00F3 00F2 00F4 00F6 00F5 00FA 00F9 00FB 00FC",
    "2020 00B0 00A2 00A3 00A7 2022 00B6 00DF 00AE 00A9 2122 00B4 00A8 2260 00C6 00D8",
    "221E 00B1 2264 2265 00A5 00B5 2202 2211 220F 03C0 222B 00AA 00BA 03A9 00E6 00F8",
    "00BF 00A1 00AC 221A 0192 2248 2206 00AB 00BB 2026 00A0 00C0 00C3 00D5 0152 0153",
    "2013 2014 201C 201D 2018 2019 00F7 25CA 00FF 0178 011E 011F 0130 0131 015E 015F",
    "2021 00B7 201A 201E 2030 00C2 00CA 00C1 00CB 00C8 00CD 00CE 00CF 00CC 00D3 00D4",
    "F8FF 00D2 00DA 00DB 00D9 F8A0 02C6 02DC 00AF 02D8 02D9 02DA 00B8 02DD 02DB 02C7"]

def palmos : SingleByte :=
  .ofRows [
    "20AC 0081 201A 0192 201E 2026 2020 2021 02C6 2030 0160 2039 0152 2666 2663 2665",
    "2660 2018 2019 201C 201D 2022 2013 2014 02DC 2122 0161 009B 0153 009D 009E 0178",
    "00A0 00A1 00A2 00A3 00A4 00A5 00A6 00A7 00A8 00A9 00AA 00AB 00AC 00AD 00AE 00AF",
    "00B0 00B1 00B2 00B3 00B4 00B5 00B6 00B7 00B8 00B9 00BA 00BB 00BC 00BD 00BE 00BF",
    "00C0 00C1 00C2 00C3 00C4 00C5 00C6 00C7 00C8 00C9 00CA 00CB 00CC 00CD 00CE 00CF",
    "00D0 00D1 00D2 00D3 00D4 00D5 00D6 00D7 00D8 00D9 00DA 00DB 00DC 00DD 00DE 00DF",
    "00E0 00E1 00E2 00E3 00E4 00E5 00E6 00E7 00E8 00E9 00EA 00EB 00EC 00ED 00EE 00EF",
    "00F0 00F1 00F2 00F3 00F4 00F5 00F6 00F7 00F8 00F9 00FA 00FB 00FC 00FD 00FE 00FF"]

def ptcp154 : SingleByte :=
  .ofRows [
    "0496 0492 04EE 0493 201E 2026 04B6 04AE 04B2 04AF 04A0 04E2 04A2 049A 04BA 04B8",
    "0497 2018 2019 201C 201D 2022 2013 2014 04B3 04B7 04A1 04E3 04A3 049B 04BB 04B9",
    "00A0 040E 045E 0408 04E8 0498 04B0 00A7 0401 00A9 04D8 00AB 00AC 04EF 00AE 049C",
    "00B0 04B1 0406 0456 0499 04E9 00B6 00B7 0451 2116 04D9 00BB 0458 04AA 04AB 049D",
    "0410 0411 0412 0413 0414 0415 0416 0417 0418 0419 041A 041B 041C 041D 041E 041F",
    "0420 0421 0422 0423 0424 0425 0426 0427 0428 0429 042A 042B 042C 042D 042E 042F",
    "0430 0431 0432 0433 0434 0435 0436 0437 0438 0439 043A 043B 043C 043D 043E 043F",
    "0440 0441 0442 0443 0444 0445 0446 0447 0448 0449 044A 044B 044C 044D 044E 044F"]

def tis_620 : SingleByte :=
  .ofRows [
    "0080 0081 0082 0083 0084 0085 0086 0087 0088 0089 008A 008B 008C 008D 008E 008F",
    "0090 0091 0092 0093 0094 0095 0096 0097 0098 0099 009A 009B 009C 009D 009E 009F",
    "---- 0E01 0E02 0E03 0E04 0E05 0E06 0E07 0E08 0E09 0E0A 0E0B 0E0C 0E0D 0E0E 0E0F",
    "0E10 0E11 0E12 0E13 0E14 0E15 0E16 0E17 0E18 0E19 0E1A 0E1B 0E1C 0E1D 0E1E 0E1F",
    "0E20 0E21 0E22 0E23 0E24 0E25 0E26 0E27 0E28 0E29 0E2A 0E2B 0E2C 0E2D 0E2E 0E2F",
    "0E30 0E31 0E32 0E33 0E34 0E35 0E36 0E37 0E38 0E39 0E3A ---- ---- ---- ---- 0E3F",
    "0E40 0E41 0E42 0E43 0E44 0E45 0E46 0E47 0E48 0E49 0E4A 0E4B 0E4C 0E4D 0E4E 0E4F",
    "0E50 0E51 0E52 0E53 0E54 0E55 0E56 0E57 0E58 0E59 0E5A 0E5B ---- ---- ---- ----"]

end GridRobot.Encoding.SingleByte
