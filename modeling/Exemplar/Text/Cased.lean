import Exemplar.Text.CharSet

/-
  Upper case of a text. A letter may have an upper case of two or three characters.

  The case of letters. A letter can have a case without having a counterpart in the other one, and a
  few letters are of a case of their own that words may begin with. Beside the cases stand signs for
  numbers that are no decimal digits, and characters that do not part a word when the case of its
  letters is found: marks above and below letters, modifiers, signs of format, and points such as
  those in abbreviations.
-/

namespace Exemplar.Text

/-- Runs of letters with an upper case of one character: first and last letter, the step between
letters, and the upper case of the first. -/
def upperRuns : Array Nat := readBounds
  ["b5 b5 1 39c e0 f6 1 c0 f8 fe 1 d8 ff ff 1 178 101 12f 2 100 131 131 1 49 133 137 2 132 13a",
   "148 2 139 14b 177 2 14a 17a 17e 2 179 17f 17f 1 53 180 180 1 243 183 185 2 182 188 188 1 187",
   "18c 18c 1 18b 192 192 1 191 195 195 1 1f6 199 199 1 198 19a 19a 1 23d 19e 19e 1 220 1a1 1a5 2",
   "1a0 1a8 1a8 1 1a7 1ad 1ad 1 1ac 1b0 1b0 1 1af 1b4 1b6 2 1b3 1b9 1b9 1 1b8 1bd 1bd 1 1bc 1bf",
   "1bf 1 1f7 1c5 1c5 1 1c4 1c6 1c6 1 1c4 1c8 1c8 1 1c7 1c9 1c9 1 1c7 1cb 1cb 1 1ca 1cc 1cc 1 1ca",
   "1ce 1dc 2 1cd 1dd 1dd 1 18e 1df 1ef 2 1de 1f2 1f2 1 1f1 1f3 1f3 1 1f1 1f5 1f5 1 1f4 1f9 21f 2",
   "1f8 223 233 2 222 23c 23c 1 23b 23f 240 1 2c7e 242 242 1 241 247 24f 2 246 250 250 1 2c6f 251",
   "251 1 2c6d 252 252 1 2c70 253 253 1 181 254 254 1 186 256 257 1 189 259 259 1 18f 25b 25b 1",
   "190 25c 25c 1 a7ab 260 260 1 193 261 261 1 a7ac 263 263 1 194 265 265 1 a78d 266 266 1 a7aa",
   "268 268 1 197 269 269 1 196 26a 26a 1 a7ae 26b 26b 1 2c62 26c 26c 1 a7ad 26f 26f 1 19c 271",
   "271 1 2c6e 272 272 1 19d 275 275 1 19f 27d 27d 1 2c64 280 280 1 1a6 282 282 1 a7c5 283 283 1",
   "1a9 287 287 1 a7b1 288 288 1 1ae 289 289 1 244 28a 28b 1 1b1 28c 28c 1 245 292 292 1 1b7 29d",
   "29d 1 a7b2 29e 29e 1 a7b0 345 345 1 399 371 373 2 370 377 377 1 376 37b 37d 1 3fd 3ac 3ac 1",
   "386 3ad 3af 1 388 3b1 3c1 1 391 3c2 3c2 1 3a3 3c3 3cb 1 3a3 3cc 3cc 1 38c 3cd 3ce 1 38e 3d0",
   "3d0 1 392 3d1 3d1 1 398 3d5 3d5 1 3a6 3d6 3d6 1 3a0 3d7 3d7 1 3cf 3d9 3ef 2 3d8 3f0 3f0 1 39a",
   "3f1 3f1 1 3a1 3f2 3f2 1 3f9 3f3 3f3 1 37f 3f5 3f5 1 395 3f8 3f8 1 3f7 3fb 3fb 1 3fa 430 44f 1",
   "410 450 45f 1 400 461 481 2 460 48b 4bf 2 48a 4c2 4ce 2 4c1 4cf 4cf 1 4c0 4d1 52f 2 4d0 561",
   "586 1 531 10d0 10fa 1 1c90 10fd 10ff 1 1cbd 13f8 13fd 1 13f0 1c80 1c80 1 412 1c81 1c81 1 414",
   "1c82 1c82 1 41e 1c83 1c84 1 421 1c85 1c85 1 422 1c86 1c86 1 42a 1c87 1c87 1 462 1c88 1c88 1",
   "a64a 1d79 1d79 1 a77d 1d7d 1d7d 1 2c63 1d8e 1d8e 1 a7c6 1e01 1e95 2 1e00 1e9b 1e9b 1 1e60",
   "1ea1 1eff 2 1ea0 1f00 1f07 1 1f08 1f10 1f15 1 1f18 1f20 1f27 1 1f28 1f30 1f37 1 1f38 1f40",
   "1f45 1 1f48 1f51 1f57 2 1f59 1f60 1f67 1 1f68 1f70 1f71 1 1fba 1f72 1f75 1 1fc8 1f76 1f77 1",
   "1fda 1f78 1f79 1 1ff8 1f7a 1f7b 1 1fea 1f7c 1f7d 1 1ffa 1fb0 1fb1 1 1fb8 1fbe 1fbe 1 399 1fd0",
   "1fd1 1 1fd8 1fe0 1fe1 1 1fe8 1fe5 1fe5 1 1fec 214e 214e 1 2132 2170 217f 1 2160 2184 2184 1",
   "2183 24d0 24e9 1 24b6 2c30 2c5f 1 2c00 2c61 2c61 1 2c60 2c65 2c65 1 23a 2c66 2c66 1 23e 2c68",
   "2c6c 2 2c67 2c73 2c73 1 2c72 2c76 2c76 1 2c75 2c81 2ce3 2 2c80 2cec 2cee 2 2ceb 2cf3 2cf3 1",
   "2cf2 2d00 2d25 1 10a0 2d27 2d27 1 10c7 2d2d 2d2d 1 10cd a641 a66d 2 a640 a681 a69b 2 a680",
   "a723 a72f 2 a722 a733 a76f 2 a732 a77a a77c 2 a779 a77f a787 2 a77e a78c a78c 1 a78b a791",
   "a793 2 a790 a794 a794 1 a7c4 a797 a7a9 2 a796 a7b5 a7c3 2 a7b4 a7c8 a7ca 2 a7c7 a7d1 a7d1 1",
   "a7d0 a7d7 a7d9 2 a7d6 a7f6 a7f6 1 a7f5 ab53 ab53 1 a7b3 ab70 abbf 1 13a0 ff41 ff5a 1 ff21",
   "10428 1044f 1 10400 104d8 104fb 1 104b0 10597 105a1 1 10570 105a3 105b1 1 1057c 105b3 105b9 1",
   "1058c 105bb 105bc 1 10594 10cc0 10cf2 1 10c80 118c0 118df 1 118a0 16e60 16e7f 1 16e40 1e922",
   "1e943 1 1e900"]

/-- Letters with an upper case of more than one character: the letter and three places, of which
zeros are empty. -/
def upperSpecials : Array Nat := readBounds
  ["df 53 53 0 149 2bc 4e 0 1f0 4a 30c 0 390 399 308 301 3b0 3a5 308 301 587 535 552 0 1e96 48",
   "331 0 1e97 54 308 0 1e98 57 30a 0 1e99 59 30a 0 1e9a 41 2be 0 1f50 3a5 313 0 1f52 3a5 313 300",
   "1f54 3a5 313 301 1f56 3a5 313 342 1f80 1f08 399 0 1f81 1f09 399 0 1f82 1f0a 399 0 1f83 1f0b",
   "399 0 1f84 1f0c 399 0 1f85 1f0d 399 0 1f86 1f0e 399 0 1f87 1f0f 399 0 1f88 1f08 399 0 1f89",
   "1f09 399 0 1f8a 1f0a 399 0 1f8b 1f0b 399 0 1f8c 1f0c 399 0 1f8d 1f0d 399 0 1f8e 1f0e 399 0",
   "1f8f 1f0f 399 0 1f90 1f28 399 0 1f91 1f29 399 0 1f92 1f2a 399 0 1f93 1f2b 399 0 1f94 1f2c 399",
   "0 1f95 1f2d 399 0 1f96 1f2e 399 0 1f97 1f2f 399 0 1f98 1f28 399 0 1f99 1f29 399 0 1f9a 1f2a",
   "399 0 1f9b 1f2b 399 0 1f9c 1f2c 399 0 1f9d 1f2d 399 0 1f9e 1f2e 399 0 1f9f 1f2f 399 0 1fa0",
   "1f68 399 0 1fa1 1f69 399 0 1fa2 1f6a 399 0 1fa3 1f6b 399 0 1fa4 1f6c 399 0 1fa5 1f6d 399 0",
   "1fa6 1f6e 399 0 1fa7 1f6f 399 0 1fa8 1f68 399 0 1fa9 1f69 399 0 1faa 1f6a 399 0 1fab 1f6b 399",
   "0 1fac 1f6c 399 0 1fad 1f6d 399 0 1fae 1f6e 399 0 1faf 1f6f 399 0 1fb2 1fba 399 0 1fb3 391",
   "399 0 1fb4 386 399 0 1fb6 391 342 0 1fb7 391 342 399 1fbc 391 399 0 1fc2 1fca 399 0 1fc3 397",
   "399 0 1fc4 389 399 0 1fc6 397 342 0 1fc7 397 342 399 1fcc 397 399 0 1fd2 399 308 300 1fd3 399",
   "308 301 1fd6 399 342 0 1fd7 399 308 342 1fe2 3a5 308 300 1fe3 3a5 308 301 1fe4 3a1 313 0 1fe6",
   "3a5 342 0 1fe7 3a5 308 342 1ff2 1ffa 399 0 1ff3 3a9 399 0 1ff4 38f 399 0 1ff6 3a9 342 0 1ff7",
   "3a9 342 399 1ffc 3a9 399 0 fb00 46 46 0 fb01 46 49 0 fb02 46 4c 0 fb03 46 46 49 fb04 46 46 4c",
   "fb05 53 54 0 fb06 53 54 0 fb13 544 546 0 fb14 544 535 0 fb15 544 53b 0 fb16 54e 546 0 fb17",
   "544 53d 0"]

/-- The upper case of one character. -/
def upperChar (c : Char) : List Char :=
  let n := c.toNat
  if n < 128 then [c.toUpper] else
  let special := (List.range (upperSpecials.size / 4)).find? fun i =>
    upperSpecials.getD (4 * i) 0 == n
  match special with
  | some i => ([1, 2, 3].map fun k => upperSpecials.getD (4 * i + k) 0).filterMap fun u =>
      if u == 0 then none else some (Char.ofNat u)
  | none =>
    let run := (List.range (upperRuns.size / 4)).find? fun i =>
      let first := upperRuns.getD (4 * i) 0
      first ≤ n && n ≤ upperRuns.getD (4 * i + 1) 0 &&
        (n - first) % (upperRuns.getD (4 * i + 2) 1) == 0
    match run with
    | some i => [Char.ofNat (upperRuns.getD (4 * i + 3) 0 + (n - upperRuns.getD (4 * i) 0))]
    | none => [c]

/-- The text in upper case. -/
def upper (s : String) : String := String.ofList (s.toList.flatMap upperChar)

/-! ## Letters of a case -/

def ignorable : CharSet := .ofBounds
  ["27 28 2e 2f 3a 3b 5e 5f 60 61 a8 a9 ad ae af b0 b4 b5 b7 b9 2b0 370 374 376 37a 37b 384 386",
   "387 388 483 48a 559 55a 55f 560 591 5be 5bf 5c0 5c1 5c3 5c4 5c6 5c7 5c8 5f4 5f5 600 606 610",
   "61b 61c 61d 640 641 64b 660 670 671 6d6 6de 6df 6e9 6ea 6ee 70f 710 711 712 730 74b 7a6 7b1",
   "7eb 7f6 7fa 7fb 7fd 7fe 816 82e 859 85c 888 889 890 892 898 8a0 8c9 903 93a 93b 93c 93d 941",
   "949 94d 94e 951 958 962 964 971 972 981 982 9bc 9bd 9c1 9c5 9cd 9ce 9e2 9e4 9fe 9ff a01 a03",
   "a3c a3d a41 a43 a47 a49 a4b a4e a51 a52 a70 a72 a75 a76 a81 a83 abc abd ac1 ac6 ac7 ac9 acd",
   "ace ae2 ae4 afa b00 b01 b02 b3c b3d b3f b40 b41 b45 b4d b4e b55 b57 b62 b64 b82 b83 bc0 bc1",
   "bcd bce c00 c01 c04 c05 c3c c3d c3e c41 c46 c49 c4a c4e c55 c57 c62 c64 c81 c82 cbc cbd cbf",
   "cc0 cc6 cc7 ccc cce ce2 ce4 d00 d02 d3b d3d d41 d45 d4d d4e d62 d64 d81 d82 dca dcb dd2 dd5",
   "dd6 dd7 e31 e32 e34 e3b e46 e4f eb1 eb2 eb4 ebd ec6 ec7 ec8 ece f18 f1a f35 f36 f37 f38 f39",
   "f3a f71 f7f f80 f85 f86 f88 f8d f98 f99 fbd fc6 fc7 102d 1031 1032 1038 1039 103b 103d 103f",
   "1058 105a 105e 1061 1071 1075 1082 1083 1085 1087 108d 108e 109d 109e 10fc 10fd 135d 1360",
   "1712 1715 1732 1734 1752 1754 1772 1774 17b4 17b6 17b7 17be 17c6 17c7 17c9 17d4 17d7 17d8",
   "17dd 17de 180b 1810 1843 1844 1885 1887 18a9 18aa 1920 1923 1927 1929 1932 1933 1939 193c",
   "1a17 1a19 1a1b 1a1c 1a56 1a57 1a58 1a5f 1a60 1a61 1a62 1a63 1a65 1a6d 1a73 1a7d 1a7f 1a80",
   "1aa7 1aa8 1ab0 1acf 1b00 1b04 1b34 1b35 1b36 1b3b 1b3c 1b3d 1b42 1b43 1b6b 1b74 1b80 1b82",
   "1ba2 1ba6 1ba8 1baa 1bab 1bae 1be6 1be7 1be8 1bea 1bed 1bee 1bef 1bf2 1c2c 1c34 1c36 1c38",
   "1c78 1c7e 1cd0 1cd3 1cd4 1ce1 1ce2 1ce9 1ced 1cee 1cf4 1cf5 1cf8 1cfa 1d2c 1d6b 1d78 1d79",
   "1d9b 1e00 1fbd 1fbe 1fbf 1fc2 1fcd 1fd0 1fdd 1fe0 1fed 1ff0 1ffd 1fff 200b 2010 2018 201a",
   "2024 2025 2027 2028 202a 202f 2060 2065 2066 2070 2071 2072 207f 2080 2090 209d 20d0 20f1",
   "2c7c 2c7e 2cef 2cf2 2d6f 2d70 2d7f 2d80 2de0 2e00 2e2f 2e30 3005 3006 302a 302e 3031 3036",
   "303b 303c 3099 309f 30fc 30ff a015 a016 a4f8 a4fe a60c a60d a66f a673 a674 a67e a67f a680",
   "a69c a6a0 a6f0 a6f2 a700 a722 a770 a771 a788 a78b a7f2 a7f5 a7f8 a7fa a802 a803 a806 a807",
   "a80b a80c a825 a827 a82c a82d a8c4 a8c6 a8e0 a8f2 a8ff a900 a926 a92e a947 a952 a980 a983",
   "a9b3 a9b4 a9b6 a9ba a9bc a9be a9cf a9d0 a9e5 a9e7 aa29 aa2f aa31 aa33 aa35 aa37 aa43 aa44",
   "aa4c aa4d aa70 aa71 aa7c aa7d aab0 aab1 aab2 aab5 aab7 aab9 aabe aac0 aac1 aac2 aadd aade",
   "aaec aaee aaf3 aaf5 aaf6 aaf7 ab5b ab60 ab69 ab6c abe5 abe6 abe8 abe9 abed abee fb1e fb1f",
   "fbb2 fbc3 fe00 fe10 fe13 fe14 fe20 fe30 fe52 fe53 fe55 fe56 feff ff00 ff07 ff08 ff0e ff0f",
   "ff1a ff1b ff3e ff3f ff40 ff41 ff70 ff71 ff9e ffa0 ffe3 ffe4 fff9 fffc 101fd 101fe 102e0",
   "102e1 10376 1037b 10780 10786 10787 107b1 107b2 107bb 10a01 10a04 10a05 10a07 10a0c 10a10",
   "10a38 10a3b 10a3f 10a40 10ae5 10ae7 10d24 10d28 10eab 10ead 10f46 10f51 10f82 10f86 11001",
   "11002 11038 11047 11070 11071 11073 11075 1107f 11082 110b3 110b7 110b9 110bb 110bd 110be",
   "110c2 110c3 110cd 110ce 11100 11103 11127 1112c 1112d 11135 11173 11174 11180 11182 111b6",
   "111bf 111c9 111cd 111cf 111d0 1122f 11232 11234 11235 11236 11238 1123e 1123f 112df 112e0",
   "112e3 112eb 11300 11302 1133b 1133d 11340 11341 11366 1136d 11370 11375 11438 11440 11442",
   "11445 11446 11447 1145e 1145f 114b3 114b9 114ba 114bb 114bf 114c1 114c2 114c4 115b2 115b6",
   "115bc 115be 115bf 115c1 115dc 115de 11633 1163b 1163d 1163e 1163f 11641 116ab 116ac 116ad",
   "116ae 116b0 116b6 116b7 116b8 1171d 11720 11722 11726 11727 1172c 1182f 11838 11839 1183b",
   "1193b 1193d 1193e 1193f 11943 11944 119d4 119d8 119da 119dc 119e0 119e1 11a01 11a0b 11a33",
   "11a39 11a3b 11a3f 11a47 11a48 11a51 11a57 11a59 11a5c 11a8a 11a97 11a98 11a9a 11c30 11c37",
   "11c38 11c3e 11c3f 11c40 11c92 11ca8 11caa 11cb1 11cb2 11cb4 11cb5 11cb7 11d31 11d37 11d3a",
   "11d3b 11d3c 11d3e 11d3f 11d46 11d47 11d48 11d90 11d92 11d95 11d96 11d97 11d98 11ef3 11ef5",
   "13430 13439 16af0 16af5 16b30 16b37 16b40 16b44 16f4f 16f50 16f8f 16fa0 16fe0 16fe2 16fe3",
   "16fe5 1aff0 1aff4 1aff5 1affc 1affd 1afff 1bc9d 1bc9f 1bca0 1bca4 1cf00 1cf2e 1cf30 1cf47",
   "1d167 1d16a 1d173 1d183 1d185 1d18c 1d1aa 1d1ae 1d242 1d245 1da00 1da37 1da3b 1da6d 1da75",
   "1da76 1da84 1da85 1da9b 1daa0 1daa1 1dab0 1e000 1e007 1e008 1e019 1e01b 1e022 1e023 1e025",
   "1e026 1e02b 1e130 1e13e 1e2ae 1e2af 1e2ec 1e2f0 1e8d0 1e8d7 1e944 1e94c 1f3fb 1f400 e0001",
   "e0002 e0020 e0080 e0100 e01f0"]

/-- Whether a character is passed over in the search for the letters around another one. -/
def isIgnorable (c : Char) : Bool := ignorable.contains c

/-- Runs of letters with a lower case: first and last letter, the step between letters, and the
lower case of the first. -/
def lowerRuns : Array Nat := readBounds
  ["c0 d6 1 e0 d8 de 1 f8 100 12e 2 101 132 136 2 133 139 147 2 13a 14a 176 2 14b 178 178 1 ff",
   "179 17d 2 17a 181 181 1 253 182 184 2 183 186 186 1 254 187 187 1 188 189 18a 1 256 18b 18b 1",
   "18c 18e 18e 1 1dd 18f 18f 1 259 190 190 1 25b 191 191 1 192 193 193 1 260 194 194 1 263 196",
   "196 1 269 197 197 1 268 198 198 1 199 19c 19c 1 26f 19d 19d 1 272 19f 19f 1 275 1a0 1a4 2 1a1",
   "1a6 1a6 1 280 1a7 1a7 1 1a8 1a9 1a9 1 283 1ac 1ac 1 1ad 1ae 1ae 1 288 1af 1af 1 1b0 1b1 1b2 1",
   "28a 1b3 1b5 2 1b4 1b7 1b7 1 292 1b8 1b8 1 1b9 1bc 1bc 1 1bd 1c4 1c4 1 1c6 1c5 1c5 1 1c6 1c7",
   "1c7 1 1c9 1c8 1c8 1 1c9 1ca 1ca 1 1cc 1cb 1db 2 1cc 1de 1ee 2 1df 1f1 1f1 1 1f3 1f2 1f4 2 1f3",
   "1f6 1f6 1 195 1f7 1f7 1 1bf 1f8 21e 2 1f9 220 220 1 19e 222 232 2 223 23a 23a 1 2c65 23b 23b",
   "1 23c 23d 23d 1 19a 23e 23e 1 2c66 241 241 1 242 243 243 1 180 244 244 1 289 245 245 1 28c",
   "246 24e 2 247 370 372 2 371 376 376 1 377 37f 37f 1 3f3 386 386 1 3ac 388 38a 1 3ad 38c 38c 1",
   "3cc 38e 38f 1 3cd 391 3a1 1 3b1 3a3 3ab 1 3c3 3cf 3cf 1 3d7 3d8 3ee 2 3d9 3f4 3f4 1 3b8 3f7",
   "3f7 1 3f8 3f9 3f9 1 3f2 3fa 3fa 1 3fb 3fd 3ff 1 37b 400 40f 1 450 410 42f 1 430 460 480 2 461",
   "48a 4be 2 48b 4c0 4c0 1 4cf 4c1 4cd 2 4c2 4d0 52e 2 4d1 531 556 1 561 10a0 10c5 1 2d00 10c7",
   "10c7 1 2d27 10cd 10cd 1 2d2d 13a0 13ef 1 ab70 13f0 13f5 1 13f8 1c90 1cba 1 10d0 1cbd 1cbf 1",
   "10fd 1e00 1e94 2 1e01 1e9e 1e9e 1 df 1ea0 1efe 2 1ea1 1f08 1f0f 1 1f00 1f18 1f1d 1 1f10 1f28",
   "1f2f 1 1f20 1f38 1f3f 1 1f30 1f48 1f4d 1 1f40 1f59 1f5f 2 1f51 1f68 1f6f 1 1f60 1f88 1f8f 1",
   "1f80 1f98 1f9f 1 1f90 1fa8 1faf 1 1fa0 1fb8 1fb9 1 1fb0 1fba 1fbb 1 1f70 1fbc 1fbc 1 1fb3",
   "1fc8 1fcb 1 1f72 1fcc 1fcc 1 1fc3 1fd8 1fd9 1 1fd0 1fda 1fdb 1 1f76 1fe8 1fe9 1 1fe0 1fea",
   "1feb 1 1f7a 1fec 1fec 1 1fe5 1ff8 1ff9 1 1f78 1ffa 1ffb 1 1f7c 1ffc 1ffc 1 1ff3 2126 2126 1",
   "3c9 212a 212a 1 6b 212b 212b 1 e5 2132 2132 1 214e 2160 216f 1 2170 2183 2183 1 2184 24b6",
   "24cf 1 24d0 2c00 2c2f 1 2c30 2c60 2c60 1 2c61 2c62 2c62 1 26b 2c63 2c63 1 1d7d 2c64 2c64 1",
   "27d 2c67 2c6b 2 2c68 2c6d 2c6d 1 251 2c6e 2c6e 1 271 2c6f 2c6f 1 250 2c70 2c70 1 252 2c72",
   "2c72 1 2c73 2c75 2c75 1 2c76 2c7e 2c7f 1 23f 2c80 2ce2 2 2c81 2ceb 2ced 2 2cec 2cf2 2cf2 1",
   "2cf3 a640 a66c 2 a641 a680 a69a 2 a681 a722 a72e 2 a723 a732 a76e 2 a733 a779 a77b 2 a77a",
   "a77d a77d 1 1d79 a77e a786 2 a77f a78b a78b 1 a78c a78d a78d 1 265 a790 a792 2 a791 a796 a7a8",
   "2 a797 a7aa a7aa 1 266 a7ab a7ab 1 25c a7ac a7ac 1 261 a7ad a7ad 1 26c a7ae a7ae 1 26a a7b0",
   "a7b0 1 29e a7b1 a7b1 1 287 a7b2 a7b2 1 29d a7b3 a7b3 1 ab53 a7b4 a7c2 2 a7b5 a7c4 a7c4 1 a794",
   "a7c5 a7c5 1 282 a7c6 a7c6 1 1d8e a7c7 a7c9 2 a7c8 a7d0 a7d0 1 a7d1 a7d6 a7d8 2 a7d7 a7f5 a7f5",
   "1 a7f6 ff21 ff3a 1 ff41 10400 10427 1 10428 104b0 104d3 1 104d8 10570 1057a 1 10597 1057c",
   "1058a 1 105a3 1058c 10592 1 105b3 10594 10595 1 105bb 10c80 10cb2 1 10cc0 118a0 118bf 1 118c0",
   "16e40 16e5f 1 16e60 1e900 1e921 1 1e922"]

/-- The lower case of one character. -/
def lowerChar (c : Char) : List Char :=
  let n := c.toNat
  if n < 128 then [c.toLower]
  else if n == 0x130 then ['i', Char.ofNat 0x307]
  else
    let run := (List.range (lowerRuns.size / 4)).find? fun i =>
      let first := lowerRuns.getD (4 * i) 0
      first ≤ n && n ≤ lowerRuns.getD (4 * i + 1) 0 &&
        (n - first) % (lowerRuns.getD (4 * i + 2) 1) == 0
    match run with
    | some i => [Char.ofNat (lowerRuns.getD (4 * i + 3) 0 + (n - lowerRuns.getD (4 * i) 0))]
    | none => [c]

/-- Numerals that are no decimal digits. -/
def otherNumerals : CharSet := .ofBounds
  ["b2 b4 b9 ba bc bf 9f4 9fa b72 b78 bf0 bf3 c78 c7f d58 d5f d70 d79 f2a f34 1369 137d 16ee 16f1",
   "17f0 17fa 19da 19db 2070 2071 2074 207a 2080 208a 2150 2183 2185 218a 2460 249c 24ea 2500",
   "2776 2794 2cfd 2cfe 3007 3008 3021 302a 3038 303b 3192 3196 3220 322a 3248 3250 3251 3260",
   "3280 328a 32b1 32c0 a6e6 a6f0 a830 a836 10107 10134 10140 10179 1018a 1018c 102e1 102fc 10320",
   "10324 10341 10342 1034a 1034b 103d1 103d6 10858 10860 10879 10880 108a7 108b0 108fb 10900",
   "10916 1091c 109bc 109be 109c0 109d0 109d2 10a00 10a40 10a49 10a7d 10a7f 10a9d 10aa0 10aeb",
   "10af0 10b58 10b60 10b78 10b80 10ba9 10bb0 10cfa 10d00 10e60 10e7f 10f1d 10f27 10f51 10f55",
   "10fc5 10fcc 11052 11066 111e1 111f5 1173a 1173c 118ea 118f3 11c5a 11c6d 11fc0 11fd5 12400",
   "1246f 16b5b 16b62 16e80 16e97 1d2e0 1d2f4 1d360 1d379 1e8c7 1e8d0 1ec71 1ecac 1ecad 1ecb0",
   "1ecb1 1ecb5 1ed01 1ed2e 1ed2f 1ed3e 1f100 1f10d"]

/-- A letter of any script. -/
def isLetter (c : Char) : Bool :=
  isWordChar c && c != '_' && (digitValue? c).isNone && !otherNumerals.contains c

def isUpper (c : Char) : Bool := lowerChar c != [c]

def isLower (c : Char) : Bool := upperChar c != [c] && !isUpper c

/-- Small letters without a capital. -/
def loneSmall : CharSet := .ofBounds
  ["aa ab ba bb 138 139 18d 18e 19b 19c 1aa 1ac 1ba 1bb 1be 1bf 221 222 234 23a 255 256 258 259",
   "25a 25b 25d 260 262 263 264 265 267 268 26d 26f 270 271 273 275 276 27d 27e 280 281 282 284",
   "287 28d 292 293 294 295 29d 29f 2b9 2c0 2c2 2e0 2e5 37a 37b 3fc 3fd 560 561 588 589 1d00",
   "1d79 1d7a 1d7d 1d7e 1d8e 1d8f 1dc0 1e9c 1e9e 1e9f 1ea0 2071 2072 207f 2080 2090 209d 210a",
   "210b 210e 2110 2113 2114 212f 2130 2134 2135 2139 213a 213c 213e 2146 214a 2c71 2c72 2c74",
   "2c75 2c77 2c7e 2ce4 2ce5 a69c a69e a730 a732 a770 a779 a78e a78f a795 a796 a7af a7b0 a7d3",
   "a7d4 a7d5 a7d6 a7f8 a7fb ab30 ab53 ab54 ab5b ab5c ab69 10780 10781 10783 10786 10787 107b1",
   "107b2 107bb 1d41a 1d434 1d44e 1d455 1d456 1d468 1d482 1d49c 1d4b6 1d4ba 1d4bb 1d4bc 1d4bd",
   "1d4c4 1d4c5 1d4d0 1d4ea 1d504 1d51e 1d538 1d552 1d56c 1d586 1d5a0 1d5ba 1d5d4 1d5ee 1d608",
   "1d622 1d63c 1d656 1d670 1d68a 1d6a6 1d6c2 1d6db 1d6dc 1d6e2 1d6fc 1d715 1d716 1d71c 1d736",
   "1d74f 1d750 1d756 1d770 1d789 1d78a 1d790 1d7aa 1d7c3 1d7c4 1d7ca 1d7cb 1d7cc 1df00 1df0a",
   "1df0b 1df1f"]

/-- Capitals without a small letter. -/
def loneCapital : CharSet := .ofBounds
  ["3d2 3d5 2102 2103 2107 2108 210b 210e 2110 2113 2115 2116 2119 211e 2124 2125 2128 2129 212c",
   "212e 2130 2132 2133 2134 213e 2140 2145 2146 1d400 1d41a 1d434 1d44e 1d468 1d482 1d49c 1d49d",
   "1d49e 1d4a0 1d4a2 1d4a3 1d4a5 1d4a7 1d4a9 1d4ad 1d4ae 1d4b6 1d4d0 1d4ea 1d504 1d506 1d507",
   "1d50b 1d50d 1d515 1d516 1d51d 1d538 1d53a 1d53b 1d53f 1d540 1d545 1d546 1d547 1d54a 1d551",
   "1d56c 1d586 1d5a0 1d5ba 1d5d4 1d5ee 1d608 1d622 1d63c 1d656 1d670 1d68a 1d6a8 1d6c1 1d6e2",
   "1d6fb 1d71c 1d735 1d756 1d76f 1d790 1d7a9 1d7ca 1d7cb 1f130 1f14a 1f150 1f16a 1f170 1f18a"]

/-- Letters that are a capital followed by a small letter. -/
def mixedLetters : CharSet := .ofBounds
  ["1c5 1c6 1c8 1c9 1cb 1cc 1f2 1f3 1f88 1f90 1f98 1fa0 1fa8 1fb0 1fbc 1fbd 1fcc 1fcd 1ffc 1ffd"]

/-- Digits that are set apart, such as those above the line. -/
def markedDigits : CharSet := .ofBounds
  ["b2 b4 b9 ba 1369 1372 19da 19db 2070 2071 2074 207a 2080 208a 2460 2469 2474 247d 2488 2491",
   "24ea 24eb 24f5 24fe 24ff 2500 2776 277f 2780 2789 278a 2793 10a40 10a44 10e60 10e69 11052",
   "1105b 1f100 1f10b"]

/-- Letters that stand for numbers. -/
def numeralLetters : CharSet := .ofBounds
  ["3405 3406 3483 3484 382a 382b 3b4d 3b4e 4e00 4e01 4e03 4e04 4e07 4e08 4e09 4e0a 4e5d 4e5e",
   "4e8c 4e8d 4e94 4e95 4e96 4e97 4ebf 4ec1 4edf 4ee0 4ee8 4ee9 4f0d 4f0e 4f70 4f71 5104 5105",
   "5146 5147 5169 516a 516b 516c 516d 516e 5341 5342 5343 5346 534c 534d 53c1 53c5 56db 56dc",
   "58f1 58f2 58f9 58fa 5e7a 5e7b 5efe 5f00 5f0c 5f0f 5f10 5f11 62fe 62ff 634c 634d 67d2 67d3",
   "6f06 6f07 7396 7397 767e 767f 8086 8087 842c 842d 8cae 8caf 8cb3 8cb4 8d30 8d31 9621 9622",
   "9646 9647 964c 964d 9678 9679 96f6 96f7 f96b f96c f973 f974 f978 f979 f9b2 f9b3 f9d1 f9d2",
   "f9d3 f9d4 f9fd f9fe 20001 20002 20064 20065 200e2 200e3 20121 20122 2092a 2092b 20983 20984",
   "2098c 2098d 2099c 2099d 20aea 20aeb 20afd 20afe 20b19 20b1a 22390 22391 22998 22999 23b1b",
   "23b1c 2626d 2626e 2f890 2f891"]

def isMixed (c : Char) : Bool := 128 ≤ c.toNat && mixedLetters.contains c

def isCapital (c : Char) : Bool :=
  if c.toNat < 128 then c.isUpper
  else (isUpper c && !mixedLetters.contains c) || loneCapital.contains c

def isSmall (c : Char) : Bool :=
  if c.toNat < 128 then c.isLower else isLower c || loneSmall.contains c

/-- Whether a character is a letter with case. -/
def hasCase (c : Char) : Bool := isCapital c || isSmall c || isMixed c

/-- A digit, set apart or not. -/
def isDigitSign (c : Char) : Bool :=
  (digitValue? c).isSome || (128 ≤ c.toNat && markedDigits.contains c)

/-- A sign for a number. -/
def isNumeral (c : Char) : Bool :=
  (digitValue? c).isSome ||
    (128 ≤ c.toNat && (otherNumerals.contains c || numeralLetters.contains c))

/-- Whether some letter has case and all that have one have the right one. -/
def allCased (right : Char → Bool) (s : List Char) : Bool :=
  s.any right && s.all fun c => right c || !hasCase c

/-- Whether words have a capital first and small letters behind it. -/
def isTitled (s : List Char) : Bool :=
  let step (state : Option (Bool × Bool)) (c : Char) : Option (Bool × Bool) :=
    state.bind fun (found, inWord) =>
      if isCapital c || isMixed c then (if inWord then none else some (true, true))
      else if isSmall c then (if inWord then some (true, true) else none)
      else some (found, false)
  match s.foldl step (some (false, false)) with
  | some (found, _) => found
  | none => false

/-- Whether the first character that is not passed over is a letter with case. -/
def meetsCased (s : List Char) : Bool := (s.find? fun c => !isIgnorable c).any hasCase

/-- Lower case of the first character of a text, where the part before it is given, last character
first. A sigma that ends a word has its final form. -/
def lowerAt (before : List Char) (c : Char) (after : List Char) : List Char :=
  if c.toNat == 0x3a3 && meetsCased before && !meetsCased after then [Char.ofNat 0x3c2]
  else lowerChar c

/-- Lower case of a text whose part before is given, last character first. -/
def lowerFrom (before : List Char) : List Char → List Char
  | [] => []
  | c :: r => lowerAt before c r ++ lowerFrom (c :: before) r

/-- Pairs of letters that are one character, by the one whose first letter alone is a capital: the
characters before and behind it have two capitals and none. -/
def digraphs : List Nat := [0x1c5, 0x1c8, 0x1cb, 0x1f2]

/-- A character as the first of a word. Letters that are a pair get one capital, letters without
capitals in running text stay, and an iota below a letter stays below it. -/
def titleChar (c : Char) : List Char :=
  let n := c.toNat
  match digraphs.find? fun d => d ≤ n + 1 && n ≤ d + 1 with
  | some d => [Char.ofNat d]
  | none =>
    if 0x10d0 ≤ n && n ≤ 0x10ff then [c]
    else if 0x1f80 ≤ n && n ≤ 0x1faf then [Char.ofNat (n ||| 8)]
    else if [0x1fb3, 0x1fc3, 0x1ff3].contains n then [Char.ofNat (n + 9)]
    else if [0x1fbc, 0x1fcc, 0x1ffc].contains n then [c]
    else if n == 0x149 then upperChar c
    else match upperChar c with
      | [] => []
      | u :: r => u :: r.flatMap fun d =>
          if 0x1fb2 ≤ n && n ≤ 0x1ff7 && d.toNat == 0x399 then [Char.ofNat 0x345] else lowerChar d

/-- Each word with a capital and small letters behind it. The part before is given, last character
first. -/
def titleFrom (before : List Char) : List Char → List Char
  | [] => []
  | c :: r =>
    let here := if before.head?.any hasCase then lowerAt before c r else titleChar c
    here ++ titleFrom (c :: before) r

/-- A letter such that two letters that differ in case alone become one. The letters of Cherokee
become capitals, and an i without its dot stays. -/
def foldChar (c : Char) : List Char :=
  let n := c.toNat
  if n == 0x1e9e then ['s', 's']
  else if n == 0x131 || (0x13a0 ≤ n && n ≤ 0x13f5) then [c]
  else if 0x13f8 ≤ n && n ≤ 0x13fd then [Char.ofNat (n - 8)]
  else if 0xab70 ≤ n && n ≤ 0xabbf then [Char.ofNat (n - 0xab70 + 0x13a0)]
  else (upperChar c).flatMap lowerChar

/-- A text in which the case of letters makes no difference. -/
def foldCase (s : List Char) : List Char := s.flatMap foldChar

/-- Capitals made small and small letters made capitals. -/
def swapCase (before : List Char) : List Char → List Char
  | [] => []
  | c :: r =>
    let here :=
      if isCapital c then lowerAt before c r else if isSmall c then upperChar c else [c]
    here ++ swapCase (c :: before) r

end Exemplar.Text
