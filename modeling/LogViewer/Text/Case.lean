import LogViewer.Text.Basic
import LogViewer.Text.CodeTable

/-!
# Letter case

Upper and lower case by code point, from the Unicode character database, version 14. A character
whose upper or lower case is a sequence is mapped to the first character of that sequence, so both
maps stay within single code points. A third relation, `sameUpper`, joins the lower case letters
that share one upper case, such as the two lower case sigmas.

## Main definitions

- `isUpper`: the property Uppercase
- `lowerCode`, `upperCode`: the two case maps
- `isCased`: some case map changes the code point
- `upperMates`: the other lower case letters with the same upper case
- `lowerSources`: the code points with a given lower case
- `asciiUpper`: the upper case of a character as far as it is ASCII text
-/

namespace LogViewer.Text

/-! ## §1 Tables -/

/-- Code points `first`, `first + step`, … `last` that are mapped to `image`, `image + step`, …. -/
structure CaseRun where
  first : Nat
  last : Nat
  step : Nat
  image : Nat

namespace CaseRun

/-- Reads runs: first and last code point, step and image of the first. -/
def read (text : String) : List CaseRun :=
  (readRows text).filterMap fun
    | [first, last, step, image] => some ⟨first, last, step, image⟩
    | _ => none

/-- A run maps the code points that it reaches by its step. -/
def map? (run : CaseRun) (code : Nat) : Option Nat :=
  if run.first ≤ code ∧ code ≤ run.last ∧ (code - run.first) % run.step = 0 then
    some (run.image + (code - run.first))
  else none

/-- The code point that a run maps to `code`. -/
def source? (run : CaseRun) (code : Nat) : Option Nat :=
  if run.image ≤ code ∧ code - run.image ≤ run.last - run.first
      ∧ (code - run.image) % run.step = 0 then
    some (run.first + (code - run.image))
  else none

end CaseRun

/-- Characters beyond ASCII with the property Uppercase. -/
def upperCaseTable : RangeTable := .ofText <|
    "c0,d6 d8,de 100 102 104 106 108 10a 10c 10e 110 112 114 116 118 11a 11c 11e 120 122 124 126 " ++
    "128 12a 12c 12e 130 132 134 136 139 13b 13d 13f 141 143 145 147 14a 14c 14e 150 152 154 156 " ++
    "158 15a 15c 15e 160 162 164 166 168 16a 16c 16e 170 172 174 176 178,179 17b 17d 181,182 184 " ++
    "186,187 189,18b 18e,191 193,194 196,198 19c,19d 19f,1a0 1a2 1a4 1a6,1a7 1a9 1ac 1ae,1af " ++
    "1b1,1b3 1b5 1b7,1b8 1bc 1c4 1c7 1ca 1cd 1cf 1d1 1d3 1d5 1d7 1d9 1db 1de 1e0 1e2 1e4 1e6 1e8 " ++
    "1ea 1ec 1ee 1f1 1f4 1f6,1f8 1fa 1fc 1fe 200 202 204 206 208 20a 20c 20e 210 212 214 216 218 " ++
    "21a 21c 21e 220 222 224 226 228 22a 22c 22e 230 232 23a,23b 23d,23e 241 243,246 248 24a 24c " ++
    "24e 370 372 376 37f 386 388,38a 38c 38e,38f 391,3a1 3a3,3ab 3cf 3d2,3d4 3d8 3da 3dc 3de 3e0 " ++
    "3e2 3e4 3e6 3e8 3ea 3ec 3ee 3f4 3f7 3f9,3fa 3fd,42f 460 462 464 466 468 46a 46c 46e 470 472 " ++
    "474 476 478 47a 47c 47e 480 48a 48c 48e 490 492 494 496 498 49a 49c 49e 4a0 4a2 4a4 4a6 4a8 " ++
    "4aa 4ac 4ae 4b0 4b2 4b4 4b6 4b8 4ba 4bc 4be 4c0,4c1 4c3 4c5 4c7 4c9 4cb 4cd 4d0 4d2 4d4 4d6 " ++
    "4d8 4da 4dc 4de 4e0 4e2 4e4 4e6 4e8 4ea 4ec 4ee 4f0 4f2 4f4 4f6 4f8 4fa 4fc 4fe 500 502 504 " ++
    "506 508 50a 50c 50e 510 512 514 516 518 51a 51c 51e 520 522 524 526 528 52a 52c 52e 531,556 " ++
    "10a0,10c5 10c7 10cd 13a0,13f5 1c90,1cba 1cbd,1cbf 1e00 1e02 1e04 1e06 1e08 1e0a 1e0c 1e0e " ++
    "1e10 1e12 1e14 1e16 1e18 1e1a 1e1c 1e1e 1e20 1e22 1e24 1e26 1e28 1e2a 1e2c 1e2e 1e30 1e32 " ++
    "1e34 1e36 1e38 1e3a 1e3c 1e3e 1e40 1e42 1e44 1e46 1e48 1e4a 1e4c 1e4e 1e50 1e52 1e54 1e56 " ++
    "1e58 1e5a 1e5c 1e5e 1e60 1e62 1e64 1e66 1e68 1e6a 1e6c 1e6e 1e70 1e72 1e74 1e76 1e78 1e7a " ++
    "1e7c 1e7e 1e80 1e82 1e84 1e86 1e88 1e8a 1e8c 1e8e 1e90 1e92 1e94 1e9e 1ea0 1ea2 1ea4 1ea6 " ++
    "1ea8 1eaa 1eac 1eae 1eb0 1eb2 1eb4 1eb6 1eb8 1eba 1ebc 1ebe 1ec0 1ec2 1ec4 1ec6 1ec8 1eca " ++
    "1ecc 1ece 1ed0 1ed2 1ed4 1ed6 1ed8 1eda 1edc 1ede 1ee0 1ee2 1ee4 1ee6 1ee8 1eea 1eec 1eee " ++
    "1ef0 1ef2 1ef4 1ef6 1ef8 1efa 1efc 1efe 1f08,1f0f 1f18,1f1d 1f28,1f2f 1f38,1f3f 1f48,1f4d " ++
    "1f59 1f5b 1f5d 1f5f 1f68,1f6f 1fb8,1fbb 1fc8,1fcb 1fd8,1fdb 1fe8,1fec 1ff8,1ffb 2102 2107 " ++
    "210b,210d 2110,2112 2115 2119,211d 2124 2126 2128 212a,212d 2130,2133 213e,213f 2145 " ++
    "2160,216f 2183 24b6,24cf 2c00,2c2f 2c60 2c62,2c64 2c67 2c69 2c6b 2c6d,2c70 2c72 2c75 " ++
    "2c7e,2c80 2c82 2c84 2c86 2c88 2c8a 2c8c 2c8e 2c90 2c92 2c94 2c96 2c98 2c9a 2c9c 2c9e 2ca0 " ++
    "2ca2 2ca4 2ca6 2ca8 2caa 2cac 2cae 2cb0 2cb2 2cb4 2cb6 2cb8 2cba 2cbc 2cbe 2cc0 2cc2 2cc4 " ++
    "2cc6 2cc8 2cca 2ccc 2cce 2cd0 2cd2 2cd4 2cd6 2cd8 2cda 2cdc 2cde 2ce0 2ce2 2ceb 2ced 2cf2 " ++
    "a640 a642 a644 a646 a648 a64a a64c a64e a650 a652 a654 a656 a658 a65a a65c a65e a660 a662 " ++
    "a664 a666 a668 a66a a66c a680 a682 a684 a686 a688 a68a a68c a68e a690 a692 a694 a696 a698 " ++
    "a69a a722 a724 a726 a728 a72a a72c a72e a732 a734 a736 a738 a73a a73c a73e a740 a742 a744 " ++
    "a746 a748 a74a a74c a74e a750 a752 a754 a756 a758 a75a a75c a75e a760 a762 a764 a766 a768 " ++
    "a76a a76c a76e a779 a77b a77d,a77e a780 a782 a784 a786 a78b a78d a790 a792 a796 a798 a79a " ++
    "a79c a79e a7a0 a7a2 a7a4 a7a6 a7a8 a7aa,a7ae a7b0,a7b4 a7b6 a7b8 a7ba a7bc a7be a7c0 a7c2 " ++
    "a7c4,a7c7 a7c9 a7d0 a7d6 a7d8 a7f5 ff21,ff3a 10400,10427 104b0,104d3 10570,1057a 1057c,1058a " ++
    "1058c,10592 10594,10595 10c80,10cb2 118a0,118bf 16e40,16e5f 1d400,1d419 1d434,1d44d " ++
    "1d468,1d481 1d49c 1d49e,1d49f 1d4a2 1d4a5,1d4a6 1d4a9,1d4ac 1d4ae,1d4b5 1d4d0,1d4e9 " ++
    "1d504,1d505 1d507,1d50a 1d50d,1d514 1d516,1d51c 1d538,1d539 1d53b,1d53e 1d540,1d544 1d546 " ++
    "1d54a,1d550 1d56c,1d585 1d5a0,1d5b9 1d5d4,1d5ed 1d608,1d621 1d63c,1d655 1d670,1d689 " ++
    "1d6a8,1d6c0 1d6e2,1d6fa 1d71c,1d734 1d756,1d76e 1d790,1d7a8 1d7ca 1e900,1e921 1f130,1f149 " ++
    "1f150,1f169 1f170,1f189"

/-- Characters beyond ASCII whose lower case is another character. -/
def lowerRuns : List CaseRun := CaseRun.read <|
    "c0,d6,1,e0 d8,de,1,f8 100,12e,2,101 130,130,1,69 132,136,2,133 139,147,2,13a 14a,176,2,14b " ++
    "178,178,1,ff 179,17d,2,17a 181,181,1,253 182,184,2,183 186,186,1,254 187,187,1,188 " ++
    "189,18a,1,256 18b,18b,1,18c 18e,18e,1,1dd 18f,18f,1,259 190,190,1,25b 191,191,1,192 " ++
    "193,193,1,260 194,194,1,263 196,196,1,269 197,197,1,268 198,198,1,199 19c,19c,1,26f " ++
    "19d,19d,1,272 19f,19f,1,275 1a0,1a4,2,1a1 1a6,1a6,1,280 1a7,1a7,1,1a8 1a9,1a9,1,283 " ++
    "1ac,1ac,1,1ad 1ae,1ae,1,288 1af,1af,1,1b0 1b1,1b2,1,28a 1b3,1b5,2,1b4 1b7,1b7,1,292 " ++
    "1b8,1b8,1,1b9 1bc,1bc,1,1bd 1c4,1c4,1,1c6 1c5,1c5,1,1c6 1c7,1c7,1,1c9 1c8,1c8,1,1c9 " ++
    "1ca,1ca,1,1cc 1cb,1db,2,1cc 1de,1ee,2,1df 1f1,1f1,1,1f3 1f2,1f4,2,1f3 1f6,1f6,1,195 " ++
    "1f7,1f7,1,1bf 1f8,21e,2,1f9 220,220,1,19e 222,232,2,223 23a,23a,1,2c65 23b,23b,1,23c " ++
    "23d,23d,1,19a 23e,23e,1,2c66 241,241,1,242 243,243,1,180 244,244,1,289 245,245,1,28c " ++
    "246,24e,2,247 370,372,2,371 376,376,1,377 37f,37f,1,3f3 386,386,1,3ac 388,38a,1,3ad " ++
    "38c,38c,1,3cc 38e,38f,1,3cd 391,3a1,1,3b1 3a3,3ab,1,3c3 3cf,3cf,1,3d7 3d8,3ee,2,3d9 " ++
    "3f4,3f4,1,3b8 3f7,3f7,1,3f8 3f9,3f9,1,3f2 3fa,3fa,1,3fb 3fd,3ff,1,37b 400,40f,1,450 " ++
    "410,42f,1,430 460,480,2,461 48a,4be,2,48b 4c0,4c0,1,4cf 4c1,4cd,2,4c2 4d0,52e,2,4d1 " ++
    "531,556,1,561 10a0,10c5,1,2d00 10c7,10c7,1,2d27 10cd,10cd,1,2d2d 13a0,13ef,1,ab70 " ++
    "13f0,13f5,1,13f8 1c90,1cba,1,10d0 1cbd,1cbf,1,10fd 1e00,1e94,2,1e01 1e9e,1e9e,1,df " ++
    "1ea0,1efe,2,1ea1 1f08,1f0f,1,1f00 1f18,1f1d,1,1f10 1f28,1f2f,1,1f20 1f38,1f3f,1,1f30 " ++
    "1f48,1f4d,1,1f40 1f59,1f5f,2,1f51 1f68,1f6f,1,1f60 1f88,1f8f,1,1f80 1f98,1f9f,1,1f90 " ++
    "1fa8,1faf,1,1fa0 1fb8,1fb9,1,1fb0 1fba,1fbb,1,1f70 1fbc,1fbc,1,1fb3 1fc8,1fcb,1,1f72 " ++
    "1fcc,1fcc,1,1fc3 1fd8,1fd9,1,1fd0 1fda,1fdb,1,1f76 1fe8,1fe9,1,1fe0 1fea,1feb,1,1f7a " ++
    "1fec,1fec,1,1fe5 1ff8,1ff9,1,1f78 1ffa,1ffb,1,1f7c 1ffc,1ffc,1,1ff3 2126,2126,1,3c9 " ++
    "212a,212a,1,6b 212b,212b,1,e5 2132,2132,1,214e 2160,216f,1,2170 2183,2183,1,2184 " ++
    "24b6,24cf,1,24d0 2c00,2c2f,1,2c30 2c60,2c60,1,2c61 2c62,2c62,1,26b 2c63,2c63,1,1d7d " ++
    "2c64,2c64,1,27d 2c67,2c6b,2,2c68 2c6d,2c6d,1,251 2c6e,2c6e,1,271 2c6f,2c6f,1,250 " ++
    "2c70,2c70,1,252 2c72,2c72,1,2c73 2c75,2c75,1,2c76 2c7e,2c7f,1,23f 2c80,2ce2,2,2c81 " ++
    "2ceb,2ced,2,2cec 2cf2,2cf2,1,2cf3 a640,a66c,2,a641 a680,a69a,2,a681 a722,a72e,2,a723 " ++
    "a732,a76e,2,a733 a779,a77b,2,a77a a77d,a77d,1,1d79 a77e,a786,2,a77f a78b,a78b,1,a78c " ++
    "a78d,a78d,1,265 a790,a792,2,a791 a796,a7a8,2,a797 a7aa,a7aa,1,266 a7ab,a7ab,1,25c " ++
    "a7ac,a7ac,1,261 a7ad,a7ad,1,26c a7ae,a7ae,1,26a a7b0,a7b0,1,29e a7b1,a7b1,1,287 " ++
    "a7b2,a7b2,1,29d a7b3,a7b3,1,ab53 a7b4,a7c2,2,a7b5 a7c4,a7c4,1,a794 a7c5,a7c5,1,282 " ++
    "a7c6,a7c6,1,1d8e a7c7,a7c9,2,a7c8 a7d0,a7d0,1,a7d1 a7d6,a7d8,2,a7d7 a7f5,a7f5,1,a7f6 " ++
    "ff21,ff3a,1,ff41 10400,10427,1,10428 104b0,104d3,1,104d8 10570,10594,2,10597 " ++
    "10571,10579,2,10598 1057d,10589,2,105a4 1058d,10591,2,105b4 10595,10595,1,105bc " ++
    "10c80,10cb2,1,10cc0 118a0,118bf,1,118c0 16e40,16e5f,1,16e60 1e900,1e921,1,1e922"

/-- Characters beyond ASCII whose upper case is another character or starts with another one. -/
def upperRuns : List CaseRun := CaseRun.read <|
    "b5,b5,1,39c df,df,1,53 e0,f6,1,c0 f8,fe,1,d8 ff,ff,1,178 101,12f,2,100 131,131,1,49 " ++
    "133,137,2,132 13a,148,2,139 149,149,1,2bc 14b,177,2,14a 17a,17e,2,179 17f,17f,1,53 " ++
    "180,180,1,243 183,185,2,182 188,188,1,187 18c,18c,1,18b 192,192,1,191 195,195,1,1f6 " ++
    "199,199,1,198 19a,19a,1,23d 19e,19e,1,220 1a1,1a5,2,1a0 1a8,1a8,1,1a7 1ad,1ad,1,1ac " ++
    "1b0,1b0,1,1af 1b4,1b6,2,1b3 1b9,1b9,1,1b8 1bd,1bd,1,1bc 1bf,1bf,1,1f7 1c5,1c5,1,1c4 " ++
    "1c6,1c6,1,1c4 1c8,1c8,1,1c7 1c9,1c9,1,1c7 1cb,1cb,1,1ca 1cc,1cc,1,1ca 1ce,1dc,2,1cd " ++
    "1dd,1dd,1,18e 1df,1ef,2,1de 1f0,1f0,1,4a 1f2,1f2,1,1f1 1f3,1f3,1,1f1 1f5,1f5,1,1f4 " ++
    "1f9,21f,2,1f8 223,233,2,222 23c,23c,1,23b 23f,240,1,2c7e 242,242,1,241 247,24f,2,246 " ++
    "250,250,1,2c6f 251,251,1,2c6d 252,252,1,2c70 253,253,1,181 254,254,1,186 256,257,1,189 " ++
    "259,259,1,18f 25b,25b,1,190 25c,25c,1,a7ab 260,260,1,193 261,261,1,a7ac 263,263,1,194 " ++
    "265,265,1,a78d 266,266,1,a7aa 268,268,1,197 269,269,1,196 26a,26a,1,a7ae 26b,26b,1,2c62 " ++
    "26c,26c,1,a7ad 26f,26f,1,19c 271,271,1,2c6e 272,272,1,19d 275,275,1,19f 27d,27d,1,2c64 " ++
    "280,280,1,1a6 282,282,1,a7c5 283,283,1,1a9 287,287,1,a7b1 288,288,1,1ae 289,289,1,244 " ++
    "28a,28b,1,1b1 28c,28c,1,245 292,292,1,1b7 29d,29d,1,a7b2 29e,29e,1,a7b0 345,345,1,399 " ++
    "371,373,2,370 377,377,1,376 37b,37d,1,3fd 390,390,1,399 3ac,3ac,1,386 3ad,3af,1,388 " ++
    "3b0,3b0,1,3a5 3b1,3c1,1,391 3c2,3c2,1,3a3 3c3,3cb,1,3a3 3cc,3cc,1,38c 3cd,3ce,1,38e " ++
    "3d0,3d0,1,392 3d1,3d1,1,398 3d5,3d5,1,3a6 3d6,3d6,1,3a0 3d7,3d7,1,3cf 3d9,3ef,2,3d8 " ++
    "3f0,3f0,1,39a 3f1,3f1,1,3a1 3f2,3f2,1,3f9 3f3,3f3,1,37f 3f5,3f5,1,395 3f8,3f8,1,3f7 " ++
    "3fb,3fb,1,3fa 430,44f,1,410 450,45f,1,400 461,481,2,460 48b,4bf,2,48a 4c2,4ce,2,4c1 " ++
    "4cf,4cf,1,4c0 4d1,52f,2,4d0 561,586,1,531 587,587,1,535 10d0,10fa,1,1c90 10fd,10ff,1,1cbd " ++
    "13f8,13fd,1,13f0 1c80,1c80,1,412 1c81,1c81,1,414 1c82,1c82,1,41e 1c83,1c84,1,421 " ++
    "1c85,1c85,1,422 1c86,1c86,1,42a 1c87,1c87,1,462 1c88,1c88,1,a64a 1d79,1d79,1,a77d " ++
    "1d7d,1d7d,1,2c63 1d8e,1d8e,1,a7c6 1e01,1e95,2,1e00 1e96,1e96,1,48 1e97,1e97,1,54 " ++
    "1e98,1e98,1,57 1e99,1e99,1,59 1e9a,1e9a,1,41 1e9b,1e9b,1,1e60 1ea1,1eff,2,1ea0 " ++
    "1f00,1f07,1,1f08 1f10,1f15,1,1f18 1f20,1f27,1,1f28 1f30,1f37,1,1f38 1f40,1f45,1,1f48 " ++
    "1f50,1f50,1,3a5 1f51,1f57,2,1f59 1f52,1f52,1,3a5 1f54,1f54,1,3a5 1f56,1f56,1,3a5 " ++
    "1f60,1f67,1,1f68 1f70,1f71,1,1fba 1f72,1f75,1,1fc8 1f76,1f77,1,1fda 1f78,1f79,1,1ff8 " ++
    "1f7a,1f7b,1,1fea 1f7c,1f7d,1,1ffa 1f80,1f87,1,1f08 1f88,1f8f,1,1f08 1f90,1f97,1,1f28 " ++
    "1f98,1f9f,1,1f28 1fa0,1fa7,1,1f68 1fa8,1faf,1,1f68 1fb0,1fb2,1,1fb8 1fb3,1fb3,1,391 " ++
    "1fb4,1fb4,1,386 1fb6,1fb6,1,391 1fb7,1fb7,1,391 1fbc,1fbc,1,391 1fbe,1fbe,1,399 " ++
    "1fc2,1fc2,1,1fca 1fc3,1fc3,1,397 1fc4,1fc4,1,389 1fc6,1fc6,1,397 1fc7,1fc7,1,397 " ++
    "1fcc,1fcc,1,397 1fd0,1fd1,1,1fd8 1fd2,1fd2,1,399 1fd3,1fd3,1,399 1fd6,1fd6,1,399 " ++
    "1fd7,1fd7,1,399 1fe0,1fe1,1,1fe8 1fe2,1fe2,1,3a5 1fe3,1fe3,1,3a5 1fe4,1fe4,1,3a1 " ++
    "1fe5,1fe5,1,1fec 1fe6,1fe6,1,3a5 1fe7,1fe7,1,3a5 1ff2,1ff2,1,1ffa 1ff3,1ff3,1,3a9 " ++
    "1ff4,1ff4,1,38f 1ff6,1ff6,1,3a9 1ff7,1ff7,1,3a9 1ffc,1ffc,1,3a9 214e,214e,1,2132 " ++
    "2170,217f,1,2160 2184,2184,1,2183 24d0,24e9,1,24b6 2c30,2c5f,1,2c00 2c61,2c61,1,2c60 " ++
    "2c65,2c65,1,23a 2c66,2c66,1,23e 2c68,2c6c,2,2c67 2c73,2c73,1,2c72 2c76,2c76,1,2c75 " ++
    "2c81,2ce3,2,2c80 2cec,2cee,2,2ceb 2cf3,2cf3,1,2cf2 2d00,2d25,1,10a0 2d27,2d27,1,10c7 " ++
    "2d2d,2d2d,1,10cd a641,a66d,2,a640 a681,a69b,2,a680 a723,a72f,2,a722 a733,a76f,2,a732 " ++
    "a77a,a77c,2,a779 a77f,a787,2,a77e a78c,a78c,1,a78b a791,a793,2,a790 a794,a794,1,a7c4 " ++
    "a797,a7a9,2,a796 a7b5,a7c3,2,a7b4 a7c8,a7ca,2,a7c7 a7d1,a7d1,1,a7d0 a7d7,a7d9,2,a7d6 " ++
    "a7f6,a7f6,1,a7f5 ab53,ab53,1,a7b3 ab70,abbf,1,13a0 fb00,fb00,1,46 fb01,fb01,1,46 " ++
    "fb02,fb02,1,46 fb03,fb03,1,46 fb04,fb04,1,46 fb05,fb05,1,53 fb06,fb06,1,53 fb13,fb13,1,544 " ++
    "fb14,fb14,1,544 fb15,fb15,1,544 fb16,fb16,1,54e fb17,fb17,1,544 ff41,ff5a,1,ff21 " ++
    "10428,1044f,1,10400 104d8,104fb,1,104b0 10597,105bb,2,10570 10598,105a0,2,10571 " ++
    "105a4,105b0,2,1057d 105b4,105b8,2,1058d 105bc,105bc,1,10595 10cc0,10cf2,1,10c80 " ++
    "118c0,118df,1,118a0 16e60,16e7f,1,16e40 1e922,1e943,1,1e900"

/-- Lower case letters that share their upper case. -/
def upperClasses : List (List Nat) := [
    [0x69, 0x131], [0x73, 0x17f], [0xb5, 0x3bc], [0x345, 0x3b9, 0x1fbe],
    [0x390, 0x1fd3], [0x3b0, 0x1fe3], [0x3b2, 0x3d0], [0x3b5, 0x3f5],
    [0x3b8, 0x3d1], [0x3ba, 0x3f0], [0x3c0, 0x3d6], [0x3c1, 0x3f1],
    [0x3c2, 0x3c3], [0x3c6, 0x3d5], [0x432, 0x1c80], [0x434, 0x1c81],
    [0x43e, 0x1c82], [0x441, 0x1c83], [0x442, 0x1c84, 0x1c85], [0x44a, 0x1c86],
    [0x463, 0x1c87], [0x1c88, 0xa64b], [0x1e61, 0x1e9b], [0xfb05, 0xfb06]]

/-! ## §2 Case maps -/

/-- An upper case character. -/
def isUpper (code : Nat) : Bool :=
  if code < 128 then 65 ≤ code && code ≤ 90 else upperCaseTable.holds code

/-- Lower case within ASCII; all else stays. -/
def asciiLower (code : Nat) : Nat :=
  if 65 ≤ code ∧ code ≤ 90 then code + 32 else code

/-- Lower case of a code point. -/
def lowerCode (code : Nat) : Nat :=
  if code < 128 then asciiLower code
  else (lowerRuns.findSome? (·.map? code)).getD code

/-- Upper case of a code point. -/
def upperCode (code : Nat) : Nat :=
  if code < 128 then (if 97 ≤ code ∧ code ≤ 122 then code - 32 else code)
  else (upperRuns.findSome? (·.map? code)).getD code

/-- A code point that one of the case maps changes. -/
def isCased (code : Nat) : Bool :=
  lowerCode code != code || upperCode code != code

/-- An ASCII letter, the only kind of cased code point within ASCII. -/
def isAsciiCased (code : Nat) : Bool :=
  (65 ≤ code && code ≤ 90) || (97 ≤ code && code ≤ 122)

/-- The other lower case letters with the same upper case. -/
def upperMates (code : Nat) : List Nat :=
  match upperClasses.find? (·.contains code) with
  | some mates => mates.filter (· != code)
  | none => []

/-- All code points whose lower case is `code`. -/
def lowerSources (code : Nat) : List Nat :=
  (if lowerCode code = code then [code] else [])
    ++ (if 97 ≤ code ∧ code ≤ 122 then [code - 32] else [])
    ++ lowerRuns.filterMap (·.source? code)

/-! ## §3 Upper case text -/

/-- Upper case of a character where that is ASCII text; any other character stays, which is
harmless wherever the result is compared with ASCII text. -/
def asciiUpper (c : CodePoint) : List CodePoint :=
  if 'a' ≤ c ∧ c ≤ 'z' then [CodePoint.ofNat (c.toNat - 32)]
  else match c.toNat with
    | 0x131 => ['I']
    | 0x17f => ['S']
    | 0xdf => ['S', 'S']
    | 0xfb00 => ['F', 'F']
    | 0xfb01 => ['F', 'I']
    | 0xfb02 => ['F', 'L']
    | 0xfb03 => ['F', 'F', 'I']
    | 0xfb04 => ['F', 'F', 'L']
    | 0xfb05 => ['S', 'T']
    | 0xfb06 => ['S', 'T']
    | _ => [c]

end LogViewer.Text
