import LintRepair.Text.Property.Table

/-! # Scripts

The characters whose script is the named one.
-/

namespace LintRepair.Text.Property

/-- Scripts by name. -/
def scripts : List Row :=
  [⟨["adlm", "adlam"],
    "1E900,4B 4,9 4,1"⟩,
   ⟨["ahom"],
    "11700,1A 2,E 4,16"⟩,
   ⟨["hluw", "anatolianhieroglyphs"],
    "14400,246"⟩,
   ⟨["arab", "arabic"],
    "600,4 1,5 1,D 1,2 1,1F 1,9 B,19 1,6B 1,21 50,2F F0,21 5,4A 1,1C F250,1ED 2,8F 20,F 70,4 " ++
    "1,86 F63,1E 43,5 8,8 21,5 DF00,3 1,1A 1,1 1 2 1,9 1,3 1 1 6 4 1 1 1,2 1,1 1 2 1 1 1 1 1,1 " ++
    "1 2,3 1,6 1,3 1,3 1 1,9 1,10 5,2 1,4 1,10 34,1"⟩,
   ⟨["armn", "armenian"],
    "531,25 2,31 2,2 F583,4"⟩,
   ⟨["avst", "avestan"],
    "10B00,35 3,6"⟩,
   ⟨["bali", "balinese"],
    "1B00,4C 1,31"⟩,
   ⟨["bamu", "bamum"],
    "A6A0,57 C108,238"⟩,
   ⟨["bass", "bassavah"],
    "16AD0,1D 2,5"⟩,
   ⟨["batk", "batak"],
    "1BC0,33 8,3"⟩,
   ⟨["beng", "bengali"],
    "980,3 1,7 2,1 2,15 1,6 1 3,3 2,8 2,1 2,3 8 4,1 1,4 2,18"⟩,
   ⟨["berf", "beriaerfeh"],
    "16EA0,18 2,18"⟩,
   ⟨["bhks", "bhaiksuki"],
    "11C00,8 1,2C 1,D A,1C"⟩,
   ⟨["bopo", "bopomofo"],
    "2EA,1 2E19,2A 70,1F"⟩,
   ⟨["brah", "brahmi"],
    "11000,4D 4,23 9"⟩,
   ⟨["brai", "braille"],
    "2800,FF"⟩,
   ⟨["bugi", "buginese"],
    "1A00,1B 2,1"⟩,
   ⟨["buhd", "buhid"],
    "1740,13"⟩,
   ⟨["cans", "canadianaboriginal"],
    "1400,27F 230,45 101BA,F"⟩,
   ⟨["cari", "carian"],
    "102A0,30"⟩,
   ⟨["aghb", "caucasianalbanian"],
    "10530,33 B"⟩,
   ⟨["cakm", "chakma"],
    "11100,34 1,11"⟩,
   ⟨["cham"],
    "AA00,36 9,D 2,9 2,3"⟩,
   ⟨["cher", "cherokee"],
    "13A0,55 2,5 9772,4F"⟩,
   ⟨["chrs", "chorasmian"],
    "10FB0,1B"⟩,
   ⟨["zyyy", "common"],
    "0,40 1A,5 1A,2E 1,E 1,4 17 1F 1C1,26 5,4 2,13 74 9 6 1 27D 6 E 3 20 9C 204 81,1 4D9 195,3 " ++
    "122 5EF,2 47,1 CB,1 1 4CD D 7,3 1,5 1,2 2 305,B 2,56 1,A 3,A 1,E 11,21 3E,25 1,2 2,5 1,1A " ++
    "1,10 29,2 4,299 16,A 15,39F 100,273 2,89 200,5D 192,14 1 1,18 F,7 4,3 5B,1 3 5A,1 93,F " ++
    "20,25 9 30,3F 1F,50 2F 58,A7 19C0,3F 5900,21 66,2 A5,9 F4 A0 18B E,1 51D2,1 D0,9 16,22 " ++
    "1,12 1,3 93 1,1F 1A,5 1A,A A 2D,1 40,6 1,6 A,4 102,2 4,2C 3,8 50,C 33,2C E4,1A B9A4,3 " ++
    "F5C,FC 3,1B3 6,16 F,10 5F,73 3C,F5 A,26 2,3D 3,10 8,1 7,1D 4,3C D5,13 C,13 C,56 9,18 87,54 " ++
    "1,46 1,1 2 2,1 2,3 1,B 1 1,6 1,40 1,3 2,7 1,6 1,1B 1,3 1,4 1 3,6 1,153 2,123 2,31 1471,43 " ++
    "4C,3C 2C2,2B 4,63 C,E 2,E 1,E 1,24 A,AD 38,19 1,1 D,2B 4,8 7,1 E,5 9A,3D8 3,10 3,C 3,D9 " ++
    "6,B 4 F,B 4,37 8,9 6,27 8,1D 2,B 4,1 E,8 27,157 8,D 2,C 3,A 3,38 1 4,F 2,B 4,9 7,92 1,66 " ++
    "C0406 1E,5F"⟩,
   ⟨["copt", "coptic", "qaac"],
    "3E2,D 2890,73 5,6"⟩,
   ⟨["xsux", "cuneiform"],
    "12000,399 66,6E 1,4 B,C3"⟩,
   ⟨["cprt", "cypriot"],
    "10800,5 2 1,2B 1,1 3 2"⟩,
   ⟨["cpmn", "cyprominoan"],
    "12F90,62"⟩,
   ⟨["cyrl", "cyrillic"],
    "400,84 2,A8 1750,A A0 4C 1067,1F 7840,5F 578E,1 E200,3D 21"⟩,
   ⟨["dsrt", "deseret"],
    "10400,4F"⟩,
   ⟨["deva", "devanagari"],
    "900,50 4,E 2,19 9F60,1F 7200,9"⟩,
   ⟨["diak", "divesakuru"],
    "11900,6 2 2,7 1,1 1,1D 1,1 2,B 9,9"⟩,
   ⟨["dogr", "dogra"],
    "11800,3B"⟩,
   ⟨["dupl", "duployan"],
    "1BC00,6A 5,C 3,8 7,9 2,3"⟩,
   ⟨["egyp", "egyptianhieroglyphs"],
    "13000,455 A,F9A"⟩,
   ⟨["elba", "elbasan"],
    "10500,27"⟩,
   ⟨["elym", "elymaic"],
    "10FE0,16"⟩,
   ⟨["ethi", "ethiopic"],
    "1200,48 1,3 2,6 1 1,3 2,28 1,3 2,20 1,3 2,6 1 1,3 2,E 1,38 1,3 2,42 2,1F 3,19 19E6,16 9,6 " ++
    "1,6 1,6 1,6 1,6 1,6 1,6 1,6 7D22,5 2,5 2,5 9,6 1,6 13CB1,6 1,3 1,1 1,E"⟩,
   ⟨["gara", "garay"],
    "10D40,25 3,1C 8,1"⟩,
   ⟨["geor", "georgian"],
    "10A0,25 1 5 2,2A 1,3 B90,2A 2,2 1040,25 1 5"⟩,
   ⟨["glag", "glagolitic"],
    "2C00,5F 1B3A0,6 1,10 2,6 1,1 1,4"⟩,
   ⟨["goth", "gothic"],
    "10330,1A"⟩,
   ⟨["gran", "grantha"],
    "11300,3 1,7 2,1 2,15 1,6 1,1 1,4 2,8 2,1 2,2 2 6 5,6 2,6 3,4"⟩,
   ⟨["grek", "greek"],
    "370,3 1,2 2,3 1 4 1 1,2 1 1,13 1,3E E,F 1926,4 32,4 4,4 54 140,15 2,5 2,25 2,5 2,7 1 1 1 " ++
    "1,1E 2,34 1,E 1,D 2,5 1,12 2,2 1,8 127 8A3E 55DA,4E 11 D05F,45"⟩,
   ⟨["gujr", "gujarati"],
    "A81,2 1,8 1,2 1,15 1,6 1,1 1,4 2,9 1,2 1,2 2 F,3 2,B 7,6"⟩,
   ⟨["gong", "gunjalagondi"],
    "11D60,5 1,1 1,24 1,1 1,5 7,9"⟩,
   ⟨["guru", "gurmukhi"],
    "A01,2 1,5 4,1 2,15 1,6 1,1 1,1 1,1 2 1,4 4,1 2,2 3 7,3 1 7,10"⟩,
   ⟨["gukh", "gurungkhema"],
    "16100,39"⟩,
   ⟨["hani", "han"],
    "2E80,19 1,58 C,D5 2F 1 19,8 E,3 3C4,19BF 40,51FF 5900,16D 2,69 7508,1 C,6 9009,A6DF " ++
    "20,111D 2,168D 2,1D30 F,26D 9A2,21D 5E2,134A 5,2129"⟩,
   ⟨["hang", "hangul"],
    "1100,FF 1E2E,1 101,5D 71,1E 41,1E 76E1,1C 283,2BA3 C,16 4,30 27A4,1E 3,5 2,5 2,5 2,2"⟩,
   ⟨["rohg", "hanifirohingya"],
    "10D00,27 8,9"⟩,
   ⟨["hano", "hanunoo"],
    "1720,14"⟩,
   ⟨["hatr", "hatran"],
    "108E0,12 1,1 5,4"⟩,
   ⟨["hebr", "hebrew"],
    "591,36 8,1A 4,5 F528,19 1,4 1 1,1 1,1 1,9"⟩,
   ⟨["hira", "hiragana"],
    "3041,55 6,2 17F61,11E 12 1D,2 40AD"⟩,
   ⟨["armi", "imperialaramaic"],
    "10840,15 1,8"⟩,
   ⟨["zinh", "inherited", "qaai"],
    "300,6F 115,1 1C4,A 1A 2E0,3 115B,2D 2,B 1E4,2 1,C 1,6 4 6 3,1 C6,3F 20C,1 C2,20 F39,3 6B,1 " ++
    "CD65,F 10,D 3CF E2 105A BBC4,2D 2,16 220,2 11,7 2,6 1E,3 C2F52,EF"⟩,
   ⟨["phli", "inscriptionalpahlavi"],
    "10B60,12 5,7"⟩,
   ⟨["prti", "inscriptionalparthian"],
    "10B40,15 2,7"⟩,
   ⟨["java", "javanese"],
    "A980,4D 2,9 4,1"⟩,
   ⟨["kthi", "kaithi"],
    "11080,42 A"⟩,
   ⟨["knda", "kannada"],
    "C80,C 1,2 1,16 1,9 1,4 2,8 1,2 1,3 7,1 5,2 1,3 2,9 1,2"⟩,
   ⟨["kana", "katakana"],
    "30A1,59 2,2 F0,F D0,2E 1,57 CC0E,9 1,2C B052,3 1,6 1,1 1 11F,2 32 E,3"⟩,
   ⟨["kawi"],
    "11F00,10 1,28 3,1C"⟩,
   ⟨["kali", "kayahli"],
    "A900,2D 1"⟩,
   ⟨["khar", "kharoshthi"],
    "10A00,3 1,1 5,7 1,2 1,1C 2,2 4,9 7,8"⟩,
   ⟨["kits", "khitansmallscript"],
    "16FE4 1B1B,1D5 29"⟩,
   ⟨["khmr", "khmer"],
    "1780,5D 2,9 6,9 1E6,1F"⟩,
   ⟨["khoj", "khojki"],
    "11200,11 1,2E"⟩,
   ⟨["sind", "khudawadi"],
    "112B0,3A 5,9"⟩,
   ⟨["krai", "kiratrai"],
    "16D40,39"⟩,
   ⟨["laoo", "lao"],
    "E81,1 1 1,4 1,17 1 1,16 2,4 1 1,6 1,9 2,3"⟩,
   ⟨["latn", "latin"],
    "41,19 6,19 2F F 5,16 1,1E 1,1C0 27,4 1A1B,25 6,30 5,3 5,C 1,45 41,FF 171 D 10,C 8D,1 6 1B " ++
    "11,28 AD7,1F 7AA2,65 3,51 14,E 330,2A 1,8 1,3 4F96,6 41A,19 6,19 825,5 1,29 1,8 D745,1E " ++
    "6,5"⟩,
   ⟨["lepc", "lepcha"],
    "1C00,37 3,E 3,2"⟩,
   ⟨["limb", "limbu"],
    "1900,1E 1,B 4,B 4 3,B"⟩,
   ⟨["lina", "lineara"],
    "10600,136 9,15 A,7"⟩,
   ⟨["linb", "linearb"],
    "10000,B 1,19 1,12 1,1 1,E 2,D 22,7A"⟩,
   ⟨["lisu"],
    "A4D0,2F 7AB0"⟩,
   ⟨["lyci", "lycian"],
    "10280,1C"⟩,
   ⟨["lydi", "lydian"],
    "10920,19 5"⟩,
   ⟨["mahj", "mahajani"],
    "11150,26"⟩,
   ⟨["maka", "makasar"],
    "11EE0,18"⟩,
   ⟨["mlym", "malayalam"],
    "D00,C 1,2 1,32 1,2 1,5 4,F 2,19"⟩,
   ⟨["mand", "mandaic"],
    "840,1B 2"⟩,
   ⟨["mani", "manichaean"],
    "10AC0,26 4,B"⟩,
   ⟨["marc", "marchen"],
    "11C70,1F 2,15 1,D"⟩,
   ⟨["gonm", "masaramgondi"],
    "11D00,6 1,1 1,2B 3 1,1 1,8 8,9"⟩,
   ⟨["medf", "medefaidrin"],
    "16E40,5A"⟩,
   ⟨["mtei", "meeteimayek"],
    "AAE0,16 C9,2D 2,9"⟩,
   ⟨["mend", "mendekikakui"],
    "1E800,C4 2,F"⟩,
   ⟨["merc", "meroiticcursive"],
    "109A0,17 4,13 2,2D"⟩,
   ⟨["mero", "meroitichieroglyphs"],
    "10980,1F"⟩,
   ⟨["plrd", "miao"],
    "16F00,4A 4,38 7,10"⟩,
   ⟨["modi"],
    "11600,44 B,9"⟩,
   ⟨["mong", "mongolian"],
    "1800,1 2 1,13 6,58 7,2A FDB5,C"⟩,
   ⟨["mroo", "mro"],
    "16A40,1E 1,9 4,1"⟩,
   ⟨["mult", "multani"],
    "11280,6 1 1,3 1,E 1,A"⟩,
   ⟨["mymr", "myanmar"],
    "1000,9F 9940,1E 61,1F 6C50,13"⟩,
   ⟨["nbat", "nabataean"],
    "10880,1E 8,8"⟩,
   ⟨["nagm", "nagmundari"],
    "1E4D0,29"⟩,
   ⟨["nand", "nandinagari"],
    "119A0,7 2,2D 2,A"⟩,
   ⟨["talu", "newtailue"],
    "1980,2B 4,19 6,A 3,1"⟩,
   ⟨["newa"],
    "11400,5B 1,4"⟩,
   ⟨["nkoo", "nko"],
    "7C0,3A 2,2"⟩,
   ⟨["nshu", "nushu"],
    "16FE1 418E,18B"⟩,
   ⟨["hmnp", "nyiakengpuachuehmong"],
    "1E100,2C 3,D 2,9 4,1"⟩,
   ⟨["ogam", "ogham"],
    "1680,1C"⟩,
   ⟨["olck", "olchiki"],
    "1C50,2F"⟩,
   ⟨["onao", "olonal"],
    "1E5D0,2A 4"⟩,
   ⟨["hung", "oldhungarian"],
    "10C80,32 D,32 7,5"⟩,
   ⟨["ital", "olditalic"],
    "10300,23 9,2"⟩,
   ⟨["narb", "oldnortharabian"],
    "10A80,1F"⟩,
   ⟨["perm", "oldpermic"],
    "10350,2A"⟩,
   ⟨["xpeo", "oldpersian"],
    "103A0,23 4,D"⟩,
   ⟨["sogo", "oldsogdian"],
    "10F00,27"⟩,
   ⟨["sarb", "oldsoutharabian"],
    "10A60,1F"⟩,
   ⟨["orkh", "oldturkic"],
    "10C00,48"⟩,
   ⟨["ougr", "olduyghur"],
    "10F70,19"⟩,
   ⟨["orya", "oriya"],
    "B01,2 1,7 2,1 2,15 1,6 1,1 1,4 2,8 2,1 2,2 7,2 4,1 1,4 2,11"⟩,
   ⟨["osge", "osage"],
    "104B0,23 4,23"⟩,
   ⟨["osma", "osmanya"],
    "10480,1D 2,9"⟩,
   ⟨["hmng", "pahawhhmong"],
    "16B00,45 A,9 1,6 1,14 5,12"⟩,
   ⟨["palm", "palmyrene"],
    "10860,1F"⟩,
   ⟨["pauc", "paucinhau"],
    "11AC0,38"⟩,
   ⟨["phag", "phagspa"],
    "A840,37"⟩,
   ⟨["phnx", "phoenician"],
    "10900,1B 3"⟩,
   ⟨["phlp", "psalterpahlavi"],
    "10B80,11 7,3 C,6"⟩,
   ⟨["rjng", "rejang"],
    "A930,23 B"⟩,
   ⟨["runr", "runic"],
    "16A0,4A 3,A"⟩,
   ⟨["samr", "samaritan"],
    "800,2D 2,E"⟩,
   ⟨["saur", "saurashtra"],
    "A880,45 8,B"⟩,
   ⟨["shrd", "sharada"],
    "11180,5F 980,7"⟩,
   ⟨["shaw", "shavian"],
    "10450,2F"⟩,
   ⟨["sidd", "siddham"],
    "11580,35 2,25"⟩,
   ⟨["sidt", "sidetic"],
    "10940,19"⟩,
   ⟨["sgnw", "signwriting"],
    "1D800,28B F,4 1,E"⟩,
   ⟨["sinh", "sinhala"],
    "D81,2 1,11 3,17 1,8 1 2,6 3 4,5 1 1,7 6,9 2,2 103EC,13"⟩,
   ⟨["sogd", "sogdian"],
    "10F30,29"⟩,
   ⟨["sora", "sorasompeng"],
    "110D0,18 7,9"⟩,
   ⟨["soyo", "soyombo"],
    "11A50,52"⟩,
   ⟨["sund", "sundanese"],
    "1B80,3F 100,7"⟩,
   ⟨["sunu", "sunuwar"],
    "11BC0,21 E,9"⟩,
   ⟨["sylo", "sylotinagri"],
    "A800,2C"⟩,
   ⟨["syrc", "syriac"],
    "700,D 1,3B 2,2 110,A"⟩,
   ⟨["tglg", "tagalog"],
    "1700,15 9"⟩,
   ⟨["tagb", "tagbanwa"],
    "1760,C 1,2 1,1"⟩,
   ⟨["tale", "taile"],
    "1950,1D 2,4"⟩,
   ⟨["lana", "taitham"],
    "1A20,3E 1,1C 2,A 6,9 6,D"⟩,
   ⟨["tavt", "taiviet"],
    "AA80,42 18,4"⟩,
   ⟨["tayo", "taiyo"],
    "1E6C0,1E 1,15 8,1"⟩,
   ⟨["takr", "takri"],
    "11680,39 6,9"⟩,
   ⟨["taml", "tamil"],
    "B82,1 1,5 3,2 1,3 3,1 1 1,1 3,1 3,2 3,B 4,4 3,2 1,3 2 6 E,14 113C5,31 D"⟩,
   ⟨["tnsa", "tangsa"],
    "16A70,4E 1,9"⟩,
   ⟨["tang", "tangut"],
    "16FE0 1F,1AFF 200,1E 61,72"⟩,
   ⟨["telu", "telugu"],
    "C00,C 1,2 1,16 1,F 2,8 1,2 1,3 7,1 1,2 1,1 2,3 2,9 7,8"⟩,
   ⟨["thaa", "thaana"],
    "780,31"⟩,
   ⟨["thai"],
    "E01,39 5,1B"⟩,
   ⟨["tibt", "tibetan"],
    "F00,47 1,23 4,26 1,23 1,E 1,6 4,1"⟩,
   ⟨["tfng", "tifinagh"],
    "2D30,37 7,1 E"⟩,
   ⟨["tirh", "tirhuta"],
    "11480,47 8,9"⟩,
   ⟨["todr", "todhri"],
    "105C0,33"⟩,
   ⟨["tols", "tolongsiki"],
    "11DB0,2B 4,9"⟩,
   ⟨["toto"],
    "1E290,1E"⟩,
   ⟨["tutg", "tulutigalari"],
    "11380,9 1 2 1,25 1,9 1 2 1,3 1,9 1,1 8,1"⟩,
   ⟨["ugar", "ugaritic"],
    "10380,1D 1"⟩,
   ⟨["vaii", "vai"],
    "A500,12B"⟩,
   ⟨["vith", "vithkuqi"],
    "10570,A 1,E 1,6 1,1 1,A 1,E 1,6 1,1"⟩,
   ⟨["wcho", "wancho"],
    "1E2C0,39 5"⟩,
   ⟨["wara", "warangciti"],
    "118A0,52 C"⟩,
   ⟨["yezi", "yezidi"],
    "10E80,29 1,2 2,1"⟩,
   ⟨["yiii", "yi"],
    "A000,48C 3,36"⟩,
   ⟨["zanb", "zanabazarsquare"],
    "11A00,47"⟩]

end LintRepair.Text.Property
