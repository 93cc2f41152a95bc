import ServiceManifest.Text.Charset.Big5
import ServiceManifest.Text.Charset.Gb2312
import ServiceManifest.Text.Charset.Layout
import ServiceManifest.Text.Encoding.Basic

/-!
# Chinese encodings

GB 2312 is a character set in the form of EUC; GBK has further pairs for all ideographs that the set
lacks, in the order of their code points, and GB 18030 has four octets for every other code point.
Big5 has a character set of its own, which code page 950 and HKSCS change and extend.
-/

namespace ServiceManifest.Text.Chinese

/-- GB 2312. -/
def gb2312Reader : FrontReader := asciiOr (inPair (atCell? gb2312.codePoint?))

/-- The ideographs that GB 2312 lacks, and the compatibility ideographs that follow them. -/
def furtherIdeographs : Thunk (Array Nat) := Thunk.mk fun _ =>
  let listed := (gb2312.codePoints.filter (0x4E00 ≤ ·)).foldl
    (fun found code => found.setIfInBounds (code - 0x4E00) true) (Array.replicate 20902 false)
  ((List.range 20902).filter fun i => !listed.getD i false).toArray.map (· + 0x4E00) ++
    #[0xF92C, 0xF979, 0xF995, 0xF9E7, 0xF9F1, 0xFA0C, 0xFA0D, 0xFA0E, 0xFA0F, 0xFA11, 0xFA13,
      0xFA14, 0xFA18, 0xFA1F, 0xFA20, 0xFA21, 0xFA23, 0xFA24, 0xFA27, 0xFA28, 0xFA29]

/-- The pairs of GBK among the symbols of GB 2312. -/
def gbkSymbols : List CodeRun := CodeRun.ofText "
A1A4:B7 A1AA:2014 A2A1-A2AA:2170 A6E0-A6E1:FE35 A6E2-A6E3:FE39 A6E4-A6E5:FE3F A6E6-A6E7:FE3D
A6E8-A6EB:FE41 A6EE-A6EF:FE3B A6F0-A6F1:FE37 A6F2:FE31 A6F4-A6F5:FE33 A840-A841:2CA A842:2D9
A843:2013 A844:2015 A845:2025 A846:2035 A847:2105 A848:2109 A849-A84C:2196 A84D:2215 A84E:221F
A84F:2223 A850:2252 A851-A852:2266 A853:22BF A854-A877:2550 A878-A87E:2581 A880-A887:2588
A888-A88A:2593 A88B-A88C:25BC A88D-A890:25E2 A891:2609 A892:2295 A893:3012 A894-A895:301D A8BB:251
A8BD:144 A8BE:148 A8C0:261 A940-A948:3021 A949:32A3 A94A-A94B:338E A94C-A94E:339C A94F:33A1
A950:33C4 A951:33CE A952-A953:33D1 A954:33D5 A955:FE30 A956:FFE2 A957:FFE4 A959:2121 A95A:3231
A95C:2010 A960:30FC A961-A962:309B A963-A964:30FD A965:3006 A966-A967:309D A968-A971:FE49
A972-A975:FE54 A976-A97E:FE59 A980-A984:FE62 A985-A988:FE68 A996:3007"

/-- The place of the second octet of a further pair. -/
def furtherPlace? (second : Nat) : Option Nat :=
  if 0x40 ≤ second && second ≤ 0x7E then some (second - 0x40)
  else if 0x80 ≤ second && second ≤ 0xFE then some (second - 0x41)
  else none

/-- A pair of GBK. -/
def gbkPair? (first second : Nat) : Option Nat :=
  match codePointIn? gbkSymbols (first * 256 + second), atCell? gb2312.codePoint? first second with
  | some code, _ => some code
  | none, some code => some code
  | none, none =>
    (furtherPlace? second).bind fun place =>
      if 0x81 ≤ first && first ≤ 0xA0 then furtherIdeographs.get[(first - 0x81) * 190 + place]?
      else if 0xAA ≤ first && first ≤ 0xFE && place < 96 then
        furtherIdeographs.get[32 * 190 + (first - 0xAA) * 96 + place]?
      else none

/-- GBK. -/
def gbk : FrontReader := asciiOr (inPair gbkPair?)

/-- The pairs that GB 18030 adds to GBK. -/
def gb18030Pairs : List CodeRun := CodeRun.ofText "
A140-A17E:E4C6 A180-A1A0:E505 A240-A27E:E526 A280-A2A0:E565 A2AB-A2B0:E766 A2E3:20AC A2E4:E76D
A2EF-A2F0:E76E A2FD-A2FE:E770 A340-A37E:E586 A380-A3A0:E5C5 A440-A47E:E5E6 A480-A4A0:E625
A4F4-A4FE:E772 A540-A57E:E646 A580-A5A0:E685 A5F7-A5FE:E77D A640-A67E:E6A6 A680-A6A0:E6E5
A6B9-A6C0:E785 A6D9-A6DF:E78D A6EC-A6ED:E794 A6F3:E796 A6F6-A6FE:E797 A740-A77E:E706
A780-A7A0:E745 A7C2-A7D0:E7A0 A7F2-A7FE:E7AF A896-A8A0:E7BC A8BC:E7C7 A8BF:1F9 A8C1-A8C4:E7C9
A8EA-A8FE:E7CD A958:E7E2 A95B:E7E3 A95D-A95F:E7E4 A989:303E A98A-A995:2FF0 A997-A9A3:E7F4
A9F0-A9FE:E801 AAA1-AAFE:E000 ABA1-ABFE:E05E ACA1-ACFE:E0BC ADA1-ADFE:E11A AEA1-AEFE:E178
AFA1-AFFE:E1D6 D7FA-D7FE:E810 F8A1-F8FE:E234 F9A1-F9FE:E292 FAA1-FAFE:E2F0 FBA1-FBFE:E34E
FCA1-FCFE:E3AC FDA1-FDFE:E40A FE50:2E81 FE51-FE53:E816 FE54:2E84 FE55:3473 FE56:3447 FE57:2E88
FE58:2E8B FE59:E81E FE5A:359E FE5B:361A FE5C:360E FE5D:2E8C FE5E:2E97 FE5F:396E FE60:3918
FE61:E826 FE62:39CF FE63:39DF FE64:3A73 FE65:39D0 FE66-FE67:E82B FE68:3B4E FE69:3C6E FE6A:3CE0
FE6B:2EA7 FE6C-FE6D:E831 FE6E:2EAA FE6F:4056 FE70:415F FE71:2EAE FE72:4337 FE73:2EB3
FE74-FE75:2EB6 FE76:E83B FE77:43B1 FE78:43AC FE79:2EBB FE7A:43DD FE7B:44D6 FE7C:4661 FE7D:464C
FE7E:E843 FE80:4723 FE81:4729 FE82:477C FE83:478D FE84:2ECA FE85:4947 FE86:497A FE87:497D
FE88-FE89:4982 FE8A-FE8B:4985 FE8C:499F FE8D:499B FE8E:49B7 FE8F:49B6 FE90-FE91:E854 FE92:4CA3
FE93-FE95:4C9F FE96:4C77 FE97:4CA2 FE98-FE9E:4D13 FE9F:4DAE FEA0:E864 FEA1-FEFE:E468"

/-- Where the code points of four octets begin a new run: the number of the first and its code
point. -/
def fourOctetRuns : List (List Char) := words "
0:80 24:A5 26:A9 2D:B2 32:B8 51:D8 59:E2 5F:EB 60:EE 64:F4 67:F8 68:FB 69:FD 6D:102 7E:114 85:11C
94:12C AC:145 AF:149 B3:14E D0:16C 132:1CF 133:1D1 134:1D3 135:1D5 136:1D7 137:1D9 138:1DB 139:1DD
155:1FA 1AC:252 1BB:262 220:2C8 221:2CC 22E:2DA 2E5:3A2 2E6:3AA 2ED:3C2 2EE:3CA 325:402 333:450
334:452 1EF2:2011 1EF4:2017 1EF5:201A 1EF7:201E 1EFE:2027 1F07:2031 1F08:2034 1F09:2036 1F0E:203C
1F7E:20AD 1FD4:2104 1FD5:2106 1FD8:210A 1FE4:2117 1FEE:2122 202C:216C 2030:217A 2046:2194
2048:219A 20B6:2209 20BC:2210 20BD:2212 20C0:2216 20C4:221B 20C6:2221 20C8:2224 20C9:2226
20CA:222C 20CC:222F 20D1:2238 20D6:223E 20E0:2249 20E3:224D 20E8:2253 20F5:2262 20F7:2268
20FD:2270 2122:2296 2125:229A 2130:22A6 2149:22C0 219B:2313 22E8:246A 22F2:249C 2356:254C
235A:2574 2367:2590 236A:2596 2374:25A2 2384:25B4 238C:25BE 2394:25C8 2397:25CC 2399:25D0
23AB:25E6 23CA:2607 23CC:260A 2402:2641 2403:2643 2C41:2E82 2C43:2E85 2C46:2E89 2C48:2E8D
2C52:2E98 2C61:2EA8 2C63:2EAB 2C66:2EAF 2C6A:2EB4 2C6C:2EB8 2C6F:2EBC 2C7D:2ECB 2DA2:2FFC
2DA6:3004 2DA7:3018 2DAC:301F 2DAE:302A 2DC2:303F 2DC4:3094 2DCB:309F 2DCD:30F7 2DD2:30FF
2DD8:312A 2ECE:322A 2ED5:3232 2F46:32A4 3030:3390 303C:339F 303E:33A2 3060:33C5 3069:33CF
306B:33D3 306D:33D6 30DE:3448 3109:3474 3233:359F 32A2:360F 32AD:361B 35AA:3919 35FF:396F
365F:39D1 366D:39E0 3700:3A74 37DA:3B4F 38F9:3C6F 396A:3CE1 3CDF:4057 3DE7:4160 3FBE:4338
4032:43AD 4036:43B2 4061:43DE 4159:44D7 42CE:464D 42E2:4662 43A3:4724 43A8:472A 43FA:477D
440A:478E 45C3:4948 45F5:497B 45F7:497E 45FB:4984 45FC:4987 4610:499C 4613:49A0 4629:49B8
48E8:4C78 490F:4CA4 497E:4D1A 4A12:4DAF 4A63:9FA6 82BD:E76C 82BE:E7C8 82BF:E7E7 82CC:E815
82CD:E819 82D2:E81F 82D9:E827 82DD:E82D 82E1:E833 82E9:E83C 82F0:E844 8300:E856 830E:E865
93D5:F92D 9421:F97A 943C:F996 948D:F9E8 9496:F9F2 94B0:FA10 94B1:FA12 94B2:FA15 94B5:FA19
94BB:FA22 94BC:FA25 94BE:FA2A 98C4:FE32 98C5:FE45 98C9:FE53 98CA:FE58 98CB:FE67 98CC:FE6C
9961:FF5F 99E2:FFE6".toList

/-- The code point of the basic plane with a number among those that have four octets. -/
def basicPlane? (number : Nat) : Option Nat :=
  if 39420 ≤ number then none
  else
    fourOctetRuns.foldl (fun found run =>
      match run.splitOn ':' with
      | [first, target] =>
        if hexValue first ≤ number then some (hexValue target + (number - hexValue first))
        else found
      | _ => found) none

/-- The code point of four octets, of which the second and the fourth are digits. -/
def fourOctets? (a b c d : Nat) : Option Nat :=
  if a < 0x81 || a = 0xFF || c < 0x81 || c = 0xFF || d < 0x30 || 0x39 < d then none
  else
    let number (a : Nat) : Nat := ((a * 10 + (b - 0x30)) * 126 + (c - 0x81)) * 10 + (d - 0x30)
    if a < 0x85 then basicPlane? (number (a - 0x81))
    else if a < 0x90 then none
    else
      let code := 0x10000 + number (a - 0x90)
      if code ≤ 0x10FFFF then some code else none

/-- GB 18030. -/
def gb18030 : FrontReader := asciiOr fun first rest =>
  match rest with
  | [] => none
  | second :: after =>
    if 0x30 ≤ second && second ≤ 0x39 then
      match after with
      | third :: fourth :: after =>
        (fourOctets? first.toNat second.toNat third.toNat fourth.toNat).map fun code =>
          ([code], after)
      | _ => none
    else
      inPair (fun first second =>
        (codePointIn? gb18030Pairs (first * 256 + second)).or (gbkPair? first second)) first rest

/-- The place of the second octet of a pair of Big5. -/
def big5Place? (second : Nat) : Option Nat :=
  if 0x40 ≤ second && second ≤ 0x7E then some (second - 0x40)
  else if 0xA1 ≤ second && second ≤ 0xFE then some (second - 0x62)
  else none

/-- A pair of a character set in the form of Big5. -/
def big5Pair? (grid : Grid) (first second : Nat) : Option Nat :=
  (big5Place? second).bind (grid.codePoint? first)

/-- Big5. -/
def big5Reader : FrontReader := asciiOr (inPair (big5Pair? big5))

/-- The pairs of Big5 that code page 950 changes or adds. -/
def codePage950Pairs : List CodeRun := CodeRun.ofText "
A145:2027 A14E:FE51 A1C2:AF A1E3:FF5E A1F2:2295 A1F3:2299 A241:2215 A242:FE68 A244:FFE5
A246-A247:FFE0 A3E1:20AC F9D6:7881 F9D7:92B9 F9D8:88CF F9D9:58BB F9DA:6052 F9DB:7CA7 F9DC:5AFA
F9DD:2554 F9DE:2566 F9DF:2557 F9E0:2560 F9E1:256C F9E2:2563 F9E3:255A F9E4:2569 F9E5:255D
F9E6:2552 F9E7:2564 F9E8:2555 F9E9:255E F9EA:256A F9EB:2561 F9EC:2558 F9ED:2567 F9EE:255B
F9EF:2553 F9F0:2565 F9F1:2556 F9F2:255F F9F3:256B F9F4:2562 F9F5:2559 F9F6:2568 F9F7:255C
F9F8:2551 F9F9:2550 F9FA-F9FB:256D F9FC:2570 F9FD:256F F9FE:2593"

/-- Code page 950. -/
def codePage950 : FrontReader := asciiOr (inPair fun first second =>
  (codePointIn? codePage950Pairs (first * 256 + second)).or (big5Pair? big5 first second))

/-- The pairs of HKSCS that stand for a letter and a mark. -/
def hkscsComposed : List (Nat × List Nat) :=
  [(0x8862, [0xCA, 0x304]), (0x8864, [0xCA, 0x30C]), (0x88A3, [0xEA, 0x304]),
    (0x88A5, [0xEA, 0x30C])]

/-- The code points of a pair of Big5 with HKSCS, which takes some rows for itself. -/
def hkscsPair? (first second : Nat) : Option (List Nat) :=
  let code := first * 256 + second
  match hkscsComposed.find? (·.1 = code) with
  | some found => some found.2
  | none =>
    let added := big5Pair? hkscs first second
    let own := if 0xC6A1 ≤ code && code ≤ 0xC8FE then none else big5Pair? big5 first second
    (added.or own).map fun code => [code]

/-- Big5 with HKSCS. -/
def big5Hkscs : FrontReader := asciiOr fun first rest =>
  match rest with
  | [] => none
  | second :: rest => (hkscsPair? first.toNat second.toNat).map fun codes => (codes, rest)

end ServiceManifest.Text.Chinese
