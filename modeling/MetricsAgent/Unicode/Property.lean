import MetricsAgent.Unicode.Category

/-!
# Character properties

Properties of characters that are not general categories: alphabetic, cased, white space and so
on.  Most are a union of categories with a short list of further characters.
-/

namespace MetricsAgent.Unicode

open Category

/-- Alphabetic characters that are neither letters nor letter numbers. -/
def otherAlphabetic : CodePoints := .ofText "
    345 5b0-5bd 5bf 5c1-5c2 5c4-5c5 5c7 610-61a 64b-657 659-65f 670 6d6-6dc 6e1-6e4 6e7-6e8 6ed
    711 730-73f 7a6-7b0 816-817 81b-823 825-827 829-82c 8d4-8df 8e3-8e9 8f0-903 93a-93b 93e-94c
    94e-94f 955-957 962-963 981-983 9be-9c4 9c7-9c8 9cb-9cc 9d7 9e2-9e3 a01-a03 a3e-a42 a47-a48
    a4b-a4c a51 a70-a71 a75 a81-a83 abe-ac5 ac7-ac9 acb-acc ae2-ae3 afa-afc b01-b03 b3e-b44
    b47-b48 b4b-b4c b56-b57 b62-b63 b82 bbe-bc2 bc6-bc8 bca-bcc bd7 c00-c04 c3e-c44 c46-c48
    c4a-c4c c55-c56 c62-c63 c81-c83 cbe-cc4 cc6-cc8 cca-ccc cd5-cd6 ce2-ce3 cf3 d00-d03 d3e-d44
    d46-d48 d4a-d4c d57 d62-d63 d81-d83 dcf-dd4 dd6 dd8-ddf df2-df3 e31 e34-e3a e4d eb1 eb4-eb9
    ebb-ebc ecd f71-f83 f8d-f97 f99-fbc 102b-1036 1038 103b-103e 1056-1059 105e-1060 1062-1064
    1067-106d 1071-1074 1082-108d 108f 109a-109d 1712-1713 1732-1733 1752-1753 1772-1773 17b6-17c8
    1885-1886 18a9 1920-192b 1930-1938 1a17-1a1b 1a55-1a5e 1a61-1a74 1abf-1ac0 1acc-1ace 1b00-1b04
    1b35-1b43 1b80-1b82 1ba1-1ba9 1bac-1bad 1be7-1bf1 1c24-1c36 1de7-1df4 24b6-24e9 2de0-2dff
    a674-a67b a69e-a69f a802 a80b a823-a827 a880-a881 a8b4-a8c3 a8c5 a8ff a926-a92a a947-a952
    a980-a983 a9b4-a9bf a9e5 aa29-aa36 aa43 aa4c-aa4d aa7b-aa7d aab0 aab2-aab4 aab7-aab8 aabe
    aaeb-aaef aaf5 abe3-abea fb1e 10376-1037a 10a01-10a03 10a05-10a06 10a0c-10a0f 10d24-10d27
    10eab-10eac 11000-11002 11038-11045 11073-11074 11080-11082 110b0-110b8 110c2 11100-11102
    11127-11132 11145-11146 11180-11182 111b3-111bf 111ce-111cf 1122c-11234 11237 1123e 11241
    112df-112e8 11300-11303 1133e-11344 11347-11348 1134b-1134c 11357 11362-11363 11435-11441
    11443-11445 114b0-114c1 115af-115b5 115b8-115be 115dc-115dd 11630-1163e 11640 116ab-116b5
    1171d-1172a 1182c-11838 11930-11935 11937-11938 1193b-1193c 11940 11942 119d1-119d7
    119da-119df 119e4 11a01-11a0a 11a35-11a39 11a3b-11a3e 11a51-11a5b 11a8a-11a97 11c2f-11c36
    11c38-11c3e 11c92-11ca7 11ca9-11cb6 11d31-11d36 11d3a 11d3c-11d3d 11d3f-11d41 11d43 11d47
    11d8a-11d8e 11d90-11d91 11d93-11d96 11ef3-11ef6 11f00-11f01 11f03 11f34-11f3a 11f3e-11f40
    16f4f 16f51-16f87 16f8f-16f92 16ff0-16ff1 1bc9e 1e000-1e006 1e008-1e018 1e01b-1e021
    1e023-1e024 1e026-1e02a 1e08f 1e947 1f130-1f149 1f150-1f169 1f170-1f189"

/-- Lowercase characters outside the category of lowercase letters. -/
def otherLowercase : CodePoints := .ofText "
    aa ba 2b0-2b8 2c0-2c1 2e0-2e4 345 37a 10fc 1d2c-1d6a 1d78 1d9b-1dbf 2071 207f 2090-209c
    2170-217f 24d0-24e9 2c7c-2c7d a69c-a69d a770 a7f2-a7f4 a7f8-a7f9 ab5c-ab5f ab69 10780
    10783-10785 10787-107b0 107b2-107ba 1e030-1e06d"

/-- Uppercase characters outside the category of uppercase letters. -/
def otherUppercase : CodePoints := .ofText "
    2160-216f 24b6-24cf 1f130-1f149 1f150-1f169 1f170-1f189"

/-- Punctuation inside words: apostrophes, full stops, colons and middle dots. -/
def wordPunctuation : CodePoints := .ofText "
    27 2e 3a b7 387 55f 5f4 2018-2019 2024 2027 fe13 fe52 fe55 ff07 ff0e ff1a"

/-- Characters that start identifiers without being letters. -/
def otherIdentifierStart : CodePoints := .ofText "
    1885-1886 2118 212e 309b-309c"

/-- Characters that continue identifiers without being letters, marks or digits. -/
def otherIdentifierContinue : CodePoints := .ofText "
    b7 387 1369-1371 19da"

/-- White space, the no-break and line separating characters included. -/
def whiteSpace : CodePoints := .ofText "
    9-d 20 85 a0 1680 2000-200a 2028-2029 202f 205f 3000"

/-- Joiners, which are invisible but join letters to one word. -/
def joinControl : CodePoints := .ofText "
    200c-200d"

/-- Dashes and hyphens. -/
def dash : CodePoints := .ofText "
    2d 58a 5be 1400 1806 2010-2015 2053 207b 208b 2212 2e17 2e1a 2e3a-2e3b 2e40 2e5d 301c 3030
    30a0 fe31-fe32 fe58 fe63 ff0d 10ead"

/-- Hexadecimal digits, the fullwidth ones included. -/
def hexDigit : CodePoints := .ofText "
    30-39 41-46 61-66 ff10-ff19 ff21-ff26 ff41-ff46"

/-- Mathematical characters. -/
def math : CodePoints := .ofText "
    2b 3c-3e 5e 7c 7e ac b1 d7 f7 3d0-3d2 3d5 3f0-3f1 3f4-3f6 606-608 2016 2032-2034 2040 2044
    2052 2061-2064 207a-207e 208a-208e 20d0-20dc 20e1 20e5-20e6 20eb-20ef 2102 2107 210a-2113 2115
    2118-211d 2124 2128-2129 212c-212d 212f-2131 2133-2138 213c-2149 214b 2190-21a7 21a9-21ae
    21b0-21b1 21b6-21b7 21bc-21db 21dd 21e4-21e5 21f4-22ff 2308-230b 2320-2321 237c 239b-23b5 23b7
    23d0 23dc-23e2 25a0-25a1 25ae-25b7 25bc-25c1 25c6-25c7 25ca-25cb 25cf-25d3 25e2 25e4 25e7-25ec
    25f8-25ff 2605-2606 2640 2642 2660-2663 266d-266f 27c0-27ff 2900-2aff 2b30-2b44 2b47-2b4c fb29
    fe61-fe66 fe68 ff0b ff1c-ff1e ff3c ff3e ff5c ff5e ffe2 ffe9-ffec 1d400-1d454 1d456-1d49c
    1d49e-1d49f 1d4a2 1d4a5-1d4a6 1d4a9-1d4ac 1d4ae-1d4b9 1d4bb 1d4bd-1d4c3 1d4c5-1d505
    1d507-1d50a 1d50d-1d514 1d516-1d51c 1d51e-1d539 1d53b-1d53e 1d540-1d544 1d546 1d54a-1d550
    1d552-1d6a5 1d6a8-1d7cb 1d7ce-1d7ff 1ee00-1ee03 1ee05-1ee1f 1ee21-1ee22 1ee24 1ee27
    1ee29-1ee32 1ee34-1ee37 1ee39 1ee3b 1ee42 1ee47 1ee49 1ee4b 1ee4d-1ee4f 1ee51-1ee52 1ee54
    1ee57 1ee59 1ee5b 1ee5d 1ee5f 1ee61-1ee62 1ee64 1ee67-1ee6a 1ee6c-1ee72 1ee74-1ee77
    1ee79-1ee7c 1ee7e 1ee80-1ee89 1ee8b-1ee9b 1eea1-1eea3 1eea5-1eea9 1eeab-1eebb 1eef0-1eef1"

/-- Characters with an emoji form. -/
def emoji : CodePoints := .ofText "
    23 2a 30-39 a9 ae 203c 2049 2122 2139 2194-2199 21a9-21aa 231a-231b 2328 23cf 23e9-23f3
    23f8-23fa 24c2 25aa-25ab 25b6 25c0 25fb-25fe 2600-2604 260e 2611 2614-2615 2618 261d 2620
    2622-2623 2626 262a 262e-262f 2638-263a 2640 2642 2648-2653 265f-2660 2663 2665-2666 2668 267b
    267e-267f 2692-2697 2699 269b-269c 26a0-26a1 26a7 26aa-26ab 26b0-26b1 26bd-26be 26c4-26c5 26c8
    26ce-26cf 26d1 26d3-26d4 26e9-26ea 26f0-26f5 26f7-26fa 26fd 2702 2705 2708-270d 270f 2712 2714
    2716 271d 2721 2728 2733-2734 2744 2747 274c 274e 2753-2755 2757 2763-2764 2795-2797 27a1 27b0
    27bf 2934-2935 2b05-2b07 2b1b-2b1c 2b50 2b55 3030 303d 3297 3299 1f004 1f0cf 1f170-1f171
    1f17e-1f17f 1f18e 1f191-1f19a 1f1e6-1f1ff 1f201-1f202 1f21a 1f22f 1f232-1f23a 1f250-1f251
    1f300-1f321 1f324-1f393 1f396-1f397 1f399-1f39b 1f39e-1f3f0 1f3f3-1f3f5 1f3f7-1f4fd
    1f4ff-1f53d 1f549-1f54e 1f550-1f567 1f56f-1f570 1f573-1f57a 1f587 1f58a-1f58d 1f590
    1f595-1f596 1f5a4-1f5a5 1f5a8 1f5b1-1f5b2 1f5bc 1f5c2-1f5c4 1f5d1-1f5d3 1f5dc-1f5de 1f5e1
    1f5e3 1f5e8 1f5ef 1f5f3 1f5fa-1f64f 1f680-1f6c5 1f6cb-1f6d2 1f6d5-1f6d7 1f6dc-1f6e5 1f6e9
    1f6eb-1f6ec 1f6f0 1f6f3-1f6fc 1f7e0-1f7eb 1f7f0 1f90c-1f93a 1f93c-1f945 1f947-1f9ff
    1fa70-1fa7c 1fa80-1fa88 1fa90-1fabd 1fabf-1fac5 1face-1fadb 1fae0-1fae8 1faf0-1faf8"

/-- Ideographs. -/
def ideographic : CodePoints := .ofText "
    3006-3007 3021-3029 3038-303a 3400-4dbf 4e00-9fff f900-fa6d fa70-fad9 16fe4 17000-187f7
    18800-18cd5 18d00-18d08 1b170-1b2fb 20000-2a6df 2a700-2b739 2b740-2b81d 2b820-2cea1
    2ceb0-2ebe0 2f800-2fa1d 30000-3134a 31350-323af"

def alphabetic : CodePoints :=
  [luPoints, llPoints, ltPoints, lmPoints, loPoints, nlPoints].foldr CodePoints.union otherAlphabetic

def lowercaseLetters : CodePoints :=
  llPoints.union otherLowercase

def uppercaseLetters : CodePoints :=
  luPoints.union otherUppercase

/-- Characters that take part in the distinction of case. -/
def cased : CodePoints :=
  lowercaseLetters.union (uppercaseLetters.union ltPoints)

/-- Characters that may stand between the letters of a word without ending it. -/
def caseIgnorable : CodePoints :=
  [mnPoints, mePoints, cfPoints, lmPoints, skPoints].foldr CodePoints.union wordPunctuation

/-- Combining marks. -/
def marks : CodePoints :=
  mnPoints.union (mcPoints.union mePoints)

/-- Characters of words: letters, marks, digits, connectors and joiners. -/
def wordCharacters : CodePoints :=
  [alphabetic, marks, ndPoints, pcPoints].foldr CodePoints.union joinControl

end MetricsAgent.Unicode
