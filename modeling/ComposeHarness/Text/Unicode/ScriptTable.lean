/-!
# Scripts

The code points of each script, under its names in lower case.
-/
namespace ComposeHarness.Text.Unicode

def scriptTable : List (List String × List String) := [
  (["adlm", "adlam"],
    ["1e900 4b 4 9 4 1"]),
  (["aghb", "caucasianalbanian"],
    ["10530 33 b 0"]),
  (["ahom"],
    ["11700 1a 2 e 4 16"]),
  (["arab", "arabic"],
    ["600 4 1 5 1 d 1 2 1 1f 1 9 b 19 1 6b 1 21 50 2f f0 1e 1 1 5 4a 1 1c f250 72 10 16a 2 4f 2 35",
    "7 0 20 f 70 4 1 86 f63 1e 43 2 37 3 df00 3 1 1a 1 1 1 0 2 0 1 9 1 3 1 0 1 0 6 0 4 0 1 0 1 0",
    "1 2 1 1 1 0 2 0 1 0 1 0 1 0 1 0 1 1 1 0 2 3 1 6 1 3 1 3 1 0 1 9 1 10 5 2 1 4 1 10 34 1"]),
  (["armi", "imperialaramaic"],
    ["10840 15 1 8"]),
  (["armn", "armenian"],
    ["531 25 2 31 2 2 f583 4"]),
  (["avst", "avestan"],
    ["10b00 35 3 6"]),
  (["bali", "balinese"],
    ["1b00 4c 1 31"]),
  (["bamu", "bamum"],
    ["a6a0 57 c108 238"]),
  (["bass", "bassavah"],
    ["16ad0 1d 2 5"]),
  (["batk", "batak"],
    ["1bc0 33 8 3"]),
  (["beng", "bengali"],
    ["980 3 1 7 2 1 2 15 1 6 1 0 3 3 2 8 2 1 2 3 8 0 4 1 1 4 2 18"]),
  (["bhks", "bhaiksuki"],
    ["11c00 8 1 2c 1 d a 1c"]),
  (["bopo", "bopomofo"],
    ["2ea 1 2e19 2a 70 1f"]),
  (["brah", "brahmi"],
    ["11000 4d 4 23 9 0"]),
  (["brai", "braille"],
    ["2800 ff"]),
  (["bugi", "buginese"],
    ["1a00 1b 2 1"]),
  (["buhd", "buhid"],
    ["1740 13"]),
  (["cakm", "chakma"],
    ["11100 34 1 11"]),
  (["cans", "canadianaboriginal"],
    ["1400 27f 230 45 101ba f"]),
  (["cari", "carian"],
    ["102a0 30"]),
  (["cham"],
    ["aa00 36 9 d 2 9 2 3"]),
  (["cher", "cherokee"],
    ["13a0 55 2 5 9772 4f"]),
  (["chrs", "chorasmian"],
    ["10fb0 1b"]),
  (["copt", "coptic", "qaac"],
    ["3e2 d 2890 73 5 6"]),
  (["cpmn", "cyprominoan"],
    ["12f90 62"]),
  (["cprt", "cypriot"],
    ["10800 5 2 0 1 2b 1 1 3 0 2 0"]),
  (["cyrl", "cyrillic"],
    ["400 84 2 a8 1750 a a0 0 4c 0 1067 1f 7840 5f 578e 1 e200 3d 21 0"]),
  (["deva", "devanagari"],
    ["900 50 4 e 2 19 9f60 1f 7200 9"]),
  (["diak", "divesakuru"],
    ["11900 6 2 0 2 7 1 1 1 1d 1 1 2 b 9 9"]),
  (["dogr", "dogra"],
    ["11800 3b"]),
  (["dsrt", "deseret"],
    ["10400 4f"]),
  (["dupl", "duployan"],
    ["1bc00 6a 5 c 3 8 7 9 2 3"]),
  (["egyp", "egyptianhieroglyphs"],
    ["13000 455 a f9a"]),
  (["elba", "elbasan"],
    ["10500 27"]),
  (["elym", "elymaic"],
    ["10fe0 16"]),
  (["ethi", "ethiopic"],
    ["1200 48 1 3 2 6 1 0 1 3 2 28 1 3 2 20 1 3 2 6 1 0 1 3 2 e 1 38 1 3 2 42 2 1f 3 19 19e6 16 9",
    "6 1 6 1 6 1 6 1 6 1 6 1 6 1 6 7d22 5 2 5 2 5 9 6 1 6 13cb1 6 1 3 1 1 1 e"]),
  (["geor", "georgian"],
    ["10a0 25 1 0 5 0 2 2a 1 3 b90 2a 2 2 1040 25 1 0 5 0"]),
  (["glag", "glagolitic"],
    ["2c00 5f 1b3a0 6 1 10 2 6 1 1 1 4"]),
  (["gong", "gunjalagondi"],
    ["11d60 5 1 1 1 24 1 1 1 5 7 9"]),
  (["gonm", "masaramgondi"],
    ["11d00 6 1 1 1 2b 3 0 1 1 1 8 8 9"]),
  (["goth", "gothic"],
    ["10330 1a"]),
  (["gran", "grantha"],
    ["11300 3 1 7 2 1 2 15 1 6 1 1 1 4 2 8 2 1 2 2 2 0 6 0 5 6 2 6 3 4"]),
  (["grek", "greek"],
    ["370 3 1 2 2 3 1 0 4 0 1 0 1 2 1 0 1 13 1 3e e f 1926 4 32 4 4 4 54 0 140 15 2 5 2 25 2 5 2 7",
    "1 0 1 0 1 0 1 1e 2 34 1 e 1 d 2 5 1 12 2 2 1 8 127 0 8a3e 0 55da 4e 11 0 d05f 45"]),
  (["gujr", "gujarati"],
    ["a81 2 1 8 1 2 1 15 1 6 1 1 1 4 2 9 1 2 1 2 2 0 f 3 2 b 7 6"]),
  (["guru", "gurmukhi"],
    ["a01 2 1 5 4 1 2 15 1 6 1 1 1 1 1 1 2 0 1 4 4 1 2 2 3 0 7 3 1 0 7 10"]),
  (["hang", "hangul"],
    ["1100 ff 1e2e 1 101 5d 71 1e 41 1e 76e1 1c 283 2ba3 c 16 4 30 27a4 1e 3 5 2 5 2 5 2 2"]),
  (["hani", "han"],
    ["2e80 19 1 58 c d5 2f 0 1 0 19 8 e 3 3c4 19bf 40 51ff 5900 16d 2 69 7508 1 c 1 900e a6df 20",
    "1039 6 dd 2 1681 e 1d30 f 26d 9a2 21d 5e2 134a 5 105f"]),
  (["hano", "hanunoo"],
    ["1720 14"]),
  (["hatr", "hatran"],
    ["108e0 12 1 1 5 4"]),
  (["hebr", "hebrew"],
    ["591 36 8 1a 4 5 f528 19 1 4 1 0 1 1 1 1 1 9"]),
  (["hira", "hiragana"],
    ["3041 55 6 2 17f61 11e 12 0 1d 2 40ad 0"]),
  (["hluw", "anatolianhieroglyphs"],
    ["14400 246"]),
  (["hmng", "pahawhhmong"],
    ["16b00 45 a 9 1 6 1 14 5 12"]),
  (["hmnp", "nyiakengpuachuehmong"],
    ["1e100 2c 3 d 2 9 4 1"]),
  (["hung", "oldhungarian"],
    ["10c80 32 d 32 7 5"]),
  (["ital", "olditalic"],
    ["10300 23 9 2"]),
  (["java", "javanese"],
    ["a980 4d 2 9 4 1"]),
  (["kali", "kayahli"],
    ["a900 2d 1 0"]),
  (["kana", "katakana"],
    ["30a1 59 2 2 f0 f d0 2e 1 57 cc0e 9 1 2c b052 3 1 6 1 1 1 0 11f 2 32 0 e 3"]),
  (["kawi"],
    ["11f00 10 1 28 3 1c"]),
  (["khar", "kharoshthi"],
    ["10a00 3 1 1 5 7 1 2 1 1c 2 2 4 9 7 8"]),
  (["khmr", "khmer"],
    ["1780 5d 2 9 6 9 1e6 1f"]),
  (["khoj", "khojki"],
    ["11200 11 1 2e"]),
  (["kits", "khitansmallscript"],
    ["16fe4 0 1b1b 1d5 29 0"]),
  (["knda", "kannada"],
    ["c80 c 1 2 1 16 1 9 1 4 2 8 1 2 1 3 7 1 6 1 1 3 2 9 1 2"]),
  (["kthi", "kaithi"],
    ["11080 42 a 0"]),
  (["lana", "taitham"],
    ["1a20 3e 1 1c 2 a 6 9 6 d"]),
  (["laoo", "lao"],
    ["e81 1 1 0 1 4 1 17 1 0 1 16 2 4 1 0 1 6 1 9 2 3"]),
  (["latn", "latin"],
    ["41 19 6 19 2f 0 f 0 5 16 1 1e 1 1c0 27 4 1a1b 25 6 30 5 3 5 c 1 45 41 ff 171 0 d 0 10 c 8d 1",
    "6 0 1b 0 11 28 ad7 1f 7aa2 65 3 42 2 1 1 0 1 7 15 d 330 2a 1 8 1 3 4f96 6 41a 19 6 19 825 5",
    "1 29 1 8 d745 1e 6 5"]),
  (["lepc", "lepcha"],
    ["1c00 37 3 e 3 2"]),
  (["limb", "limbu"],
    ["1900 1e 1 b 4 b 4 0 3 b"]),
  (["lina", "lineara"],
    ["10600 136 9 15 a 7"]),
  (["linb", "linearb"],
    ["10000 b 1 19 1 12 1 1 1 e 2 d 22 7a"]),
  (["lisu"],
    ["a4d0 2f 7ab0 0"]),
  (["lyci", "lycian"],
    ["10280 1c"]),
  (["lydi", "lydian"],
    ["10920 19 5 0"]),
  (["mahj", "mahajani"],
    ["11150 26"]),
  (["maka", "makasar"],
    ["11ee0 18"]),
  (["mand", "mandaic"],
    ["840 1b 2 0"]),
  (["mani", "manichaean"],
    ["10ac0 26 4 b"]),
  (["marc", "marchen"],
    ["11c70 1f 2 15 1 d"]),
  (["medf", "medefaidrin"],
    ["16e40 5a"]),
  (["mend", "mendekikakui"],
    ["1e800 c4 2 f"]),
  (["merc", "meroiticcursive"],
    ["109a0 17 4 13 2 2d"]),
  (["mero", "meroitichieroglyphs"],
    ["10980 1f"]),
  (["mlym", "malayalam"],
    ["d00 c 1 2 1 32 1 2 1 5 4 f 2 19"]),
  (["modi"],
    ["11600 44 b 9"]),
  (["mong", "mongolian"],
    ["1800 1 2 0 1 13 6 58 7 2a fdb5 c"]),
  (["mroo", "mro"],
    ["16a40 1e 1 9 4 1"]),
  (["mtei", "meeteimayek"],
    ["aae0 16 c9 2d 2 9"]),
  (["mult", "multani"],
    ["11280 6 1 0 1 3 1 e 1 a"]),
  (["mymr", "myanmar"],
    ["1000 9f 9940 1e 61 1f 6c50 13"]),
  (["nagm", "nagmundari"],
    ["1e4d0 29"]),
  (["nand", "nandinagari"],
    ["119a0 7 2 2d 2 a"]),
  (["narb", "oldnortharabian"],
    ["10a80 1f"]),
  (["nbat", "nabataean"],
    ["10880 1e 8 8"]),
  (["newa"],
    ["11400 5b 1 4"]),
  (["nkoo", "nko"],
    ["7c0 3a 2 2"]),
  (["nshu", "nushu"],
    ["16fe1 0 418e 18b"]),
  (["ogam", "ogham"],
    ["1680 1c"]),
  (["olck", "olchiki"],
    ["1c50 2f"]),
  (["orkh", "oldturkic"],
    ["10c00 48"]),
  (["orya", "oriya"],
    ["b01 2 1 7 2 1 2 15 1 6 1 1 1 4 2 8 2 1 2 2 7 2 4 1 1 4 2 11"]),
  (["osge", "osage"],
    ["104b0 23 4 23"]),
  (["osma", "osmanya"],
    ["10480 1d 2 9"]),
  (["ougr", "olduyghur"],
    ["10f70 19"]),
  (["palm", "palmyrene"],
    ["10860 1f"]),
  (["pauc", "paucinhau"],
    ["11ac0 38"]),
  (["perm", "oldpermic"],
    ["10350 2a"]),
  (["phag", "phagspa"],
    ["a840 37"]),
  (["phli", "inscriptionalpahlavi"],
    ["10b60 12 5 7"]),
  (["phlp", "psalterpahlavi"],
    ["10b80 11 7 3 c 6"]),
  (["phnx", "phoenician"],
    ["10900 1b 3 0"]),
  (["plrd", "miao"],
    ["16f00 4a 4 38 7 10"]),
  (["prti", "inscriptionalparthian"],
    ["10b40 15 2 7"]),
  (["rjng", "rejang"],
    ["a930 23 b 0"]),
  (["rohg", "hanifirohingya"],
    ["10d00 27 8 9"]),
  (["runr", "runic"],
    ["16a0 4a 3 a"]),
  (["samr", "samaritan"],
    ["800 2d 2 e"]),
  (["sarb", "oldsoutharabian"],
    ["10a60 1f"]),
  (["saur", "saurashtra"],
    ["a880 45 8 b"]),
  (["sgnw", "signwriting"],
    ["1d800 28b f 4 1 e"]),
  (["shaw", "shavian"],
    ["10450 2f"]),
  (["shrd", "sharada"],
    ["11180 5f"]),
  (["sidd", "siddham"],
    ["11580 35 2 25"]),
  (["sind", "khudawadi"],
    ["112b0 3a 5 9"]),
  (["sinh", "sinhala"],
    ["d81 2 1 11 3 17 1 8 1 0 2 6 3 0 4 5 1 0 1 7 6 9 2 2 103ec 13"]),
  (["sogd", "sogdian"],
    ["10f30 29"]),
  (["sogo", "oldsogdian"],
    ["10f00 27"]),
  (["sora", "sorasompeng"],
    ["110d0 18 7 9"]),
  (["soyo", "soyombo"],
    ["11a50 52"]),
  (["sund", "sundanese"],
    ["1b80 3f 100 7"]),
  (["sylo", "sylotinagri"],
    ["a800 2c"]),
  (["syrc", "syriac"],
    ["700 d 1 3b 2 2 110 a"]),
  (["tagb", "tagbanwa"],
    ["1760 c 1 2 1 1"]),
  (["takr", "takri"],
    ["11680 39 6 9"]),
  (["tale", "taile"],
    ["1950 1d 2 4"]),
  (["talu", "newtailue"],
    ["1980 2b 4 19 6 a 3 1"]),
  (["taml", "tamil"],
    ["b82 1 1 5 3 2 1 3 3 1 1 0 1 1 3 1 3 2 3 b 4 4 3 2 1 3 2 0 6 0 e 14 113c5 31 d 0"]),
  (["tang", "tangut"],
    ["16fe0 0 1f 17f7 8 2ff 200 8"]),
  (["tavt", "taiviet"],
    ["aa80 42 18 4"]),
  (["telu", "telugu"],
    ["c00 c 1 2 1 16 1 f 2 8 1 2 1 3 7 1 1 2 2 0 2 3 2 9 7 8"]),
  (["tfng", "tifinagh"],
    ["2d30 37 7 1 e 0"]),
  (["tglg", "tagalog"],
    ["1700 15 9 0"]),
  (["thaa", "thaana"],
    ["780 31"]),
  (["thai"],
    ["e01 39 5 1b"]),
  (["tibt", "tibetan"],
    ["f00 47 1 23 4 26 1 23 1 e 1 6 4 1"]),
  (["tirh", "tirhuta"],
    ["11480 47 8 9"]),
  (["tnsa", "tangsa"],
    ["16a70 4e 1 9"]),
  (["toto"],
    ["1e290 1e"]),
  (["ugar", "ugaritic"],
    ["10380 1d 1 0"]),
  (["vaii", "vai"],
    ["a500 12b"]),
  (["vith", "vithkuqi"],
    ["10570 a 1 e 1 6 1 1 1 a 1 e 1 6 1 1"]),
  (["wara", "warangciti"],
    ["118a0 52 c 0"]),
  (["wcho", "wancho"],
    ["1e2c0 39 5 0"]),
  (["xpeo", "oldpersian"],
    ["103a0 23 4 d"]),
  (["xsux", "cuneiform"],
    ["12000 399 66 6e 1 4 b c3"]),
  (["yezi", "yezidi"],
    ["10e80 29 1 2 2 1"]),
  (["yiii", "yi"],
    ["a000 48c 3 36"]),
  (["zanb", "zanabazarsquare"],
    ["11a00 47"]),
  (["zinh", "inherited", "qaai"],
    ["300 6f 115 1 1c4 a 1a 0 2e0 3 115b 1e 201 2 1 c 1 6 4 0 6 0 3 1 c6 3f 20c 1 c2 20 f39 3 6b 1",
    "cd65 f 10 d 3cf 0 e2 0 105a 0 bbc4 2d 2 16 220 2 11 7 2 6 1e 3 c2f52 ef"]),
  (["zyyy", "common"],
    ["0 40 1a 5 1a 2e 1 e 1 4 17 0 1f 0 1c1 26 5 4 2 13 74 0 9 0 6 0 1 0 27d 0 6 0 e 0 3 0 20 0 9c",
    "0 204 0 81 1 4d9 0 195 3 122 0 5ef 2 47 1 cb 1 1 0 4cd 0 d 0 7 3 1 5 1 2 2 0 305 b 2 56 1 a",
    "3 a 1 e 11 20 3f 25 1 2 2 5 1 1a 1 10 29 2 4 299 16 a 15 39f 100 273 2 1f 1 68 200 5d 192 14",
    "1 0 1 18 f 7 4 3 5b 1 3 0 5a 1 93 f 20 25 9 0 30 3f 1f 50 2f 0 58 a7 19c0 3f 5900 21 66 2 a5",
    "9 f4 0 a0 0 18b 0 e 1 51d2 1 d0 9 16 22 1 12 1 3 93 0 1 1f 1a 5 1a a a 0 2d 1 40 6 1 6 a 4",
    "102 2 4 2c 3 8 50 c 33 2c e4 1a b9a4 3 f5c f9 6 1b3 9c 73 3c f5 a 26 2 3d 3 10 8 1 7 1d 4 3c",
    "d5 13 c 13 c 56 9 18 87 54 1 46 1 1 2 0 2 1 2 3 1 b 1 0 1 6 1 40 1 3 2 7 1 6 1 1b 1 3 1 4 1",
    "0 3 6 1 153 2 123 2 31 1471 43 4c 3c 2c2 2b 4 63 c e 2 e 1 e 1 24 a ad 38 19 1 1 d 2b 4 8 7",
    "1 e 5 9a 3d7 4 10 3 c 3 76 4 5e 6 b 4 0 f b 4 37 8 9 6 27 8 1d 2 b 4 1 3e 153 c d 2 c 3 9 5",
    "37 7 e 2 a 6 8 7 92 1 65 c0407 0 1e 5f"]),
  (["gara", "garay"],
    ["10d40 25 3 1c 8 1"]),
  (["gukh", "gurungkhema"],
    ["16100 39"]),
  (["krai", "kiratrai"],
    ["16d40 39"]),
  (["onao", "olonal"],
    ["1e5d0 2a 4 0"]),
  (["sunu", "sunuwar"],
    ["11bc0 21 e 9"]),
  (["todr", "todhri"],
    ["105c0 33"]),
  (["tutg", "tulutigalari"],
    ["11380 9 1 0 2 0 1 25 1 9 1 0 2 0 1 3 1 9 1 1 8 1"])]

end ComposeHarness.Text.Unicode
