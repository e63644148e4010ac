import CommitRules.Text.Lines
import CommitRules.Text.Ranges

/-!
# CommitRules.Text.LetterCase

Simple case mappings, one character to one. Where the full mapping of a character has several
characters, its first one is taken. Two characters are *case variants* when their lower-case
forms agree or share an upper-case form, as `s` and the long `ſ` do.
-/

namespace CommitRules.Text

/-- A run of characters that move by the same distance; `step` is 2 where a script puts capital
and small letters in turn. -/
structure CaseRun where
  first : Nat
  last : Nat
  step : Nat
  distance : Int

namespace CaseRun

/-- Holds of the characters the run moves. -/
def covers (run : CaseRun) (c : Nat) : Bool :=
  run.first ≤ c && c ≤ run.last && (c - run.first) % run.step == 0

/-- The number decimal digits stand for, with a hyphen before those of a negative one. -/
def readDistance : List Char → Int
  | '-' :: digits => -(digits.foldl (fun n c => 10 * n + (c.toNat - 48)) 0 : Nat)
  | digits => (digits.foldl (fun n c => 10 * n + (c.toNat - 48)) 0 : Nat)

/-- Reads one item, `first-last:step:distance`, the ends in hexadecimal. -/
def readItem (item : List Char) : CaseRun :=
  match splitAt ':' item with
  | [ends, step, distance] =>
    match Ranges.readItem ends with
    | (first, last) => ⟨first, last, (readDistance step).toNat, readDistance distance⟩
  | _ => ⟨0, 0, 1, 0⟩

/-- Reads items apart from one another. -/
def listOfText (text : String) : List CaseRun := (words text.toList).map readItem

/-- Moves the character by the first run that covers it. -/
def apply (runs : List CaseRun) (c : Nat) : Nat :=
  match runs.find? (·.covers c) with
  | some run => (Int.ofNat c + run.distance).toNat
  | none => c

end CaseRun

/-- The characters with a lower-case form other than themselves. -/
def lowerRuns : List CaseRun := CaseRun.listOfText
  "41-5A:1:32 C0-D6:1:32 D8-DE:1:32 100-12E:2:1 130-130:1:-199 132-136:2:1 139-147:2:1
   14A-176:2:1 178-178:1:-121 179-17D:2:1 181-181:1:210 182-184:2:1 186-186:1:206 187-187:1:1
   189-18A:1:205 18B-18B:1:1 18E-18E:1:79 18F-18F:1:202 190-190:1:203 191-191:1:1 193-193:1:205
   194-194:1:207 196-196:1:211 197-197:1:209 198-198:1:1 19C-19C:1:211 19D-19D:1:213
   19F-19F:1:214 1A0-1A4:2:1 1A6-1A6:1:218 1A7-1A7:1:1 1A9-1A9:1:218 1AC-1AC:1:1 1AE-1AE:1:218
   1AF-1AF:1:1 1B1-1B2:1:217 1B3-1B5:2:1 1B7-1B7:1:219 1B8-1B8:1:1 1BC-1BC:1:1 1C4-1C4:1:2
   1C5-1C5:1:1 1C7-1C7:1:2 1C8-1C8:1:1 1CA-1CA:1:2 1CB-1DB:2:1 1DE-1EE:2:1 1F1-1F1:1:2
   1F2-1F4:2:1 1F6-1F6:1:-97 1F7-1F7:1:-56 1F8-21E:2:1 220-220:1:-130 222-232:2:1
   23A-23A:1:10795 23B-23B:1:1 23D-23D:1:-163 23E-23E:1:10792 241-241:1:1 243-243:1:-195
   244-244:1:69 245-245:1:71 246-24E:2:1 370-372:2:1 376-376:1:1 37F-37F:1:116 386-386:1:38
   388-38A:1:37 38C-38C:1:64 38E-38F:1:63 391-3A1:1:32 3A3-3AB:1:32 3CF-3CF:1:8 3D8-3EE:2:1
   3F4-3F4:1:-60 3F7-3F7:1:1 3F9-3F9:1:-7 3FA-3FA:1:1 3FD-3FF:1:-130 400-40F:1:80 410-42F:1:32
   460-480:2:1 48A-4BE:2:1 4C0-4C0:1:15 4C1-4CD:2:1 4D0-52E:2:1 531-556:1:48 10A0-10C5:1:7264
   10C7-10C7:1:7264 10CD-10CD:1:7264 13A0-13EF:1:38864 13F0-13F5:1:8 1C90-1CBA:1:-3008
   1CBD-1CBF:1:-3008 1E00-1E94:2:1 1E9E-1E9E:1:-7615 1EA0-1EFE:2:1 1F08-1F0F:1:-8
   1F18-1F1D:1:-8 1F28-1F2F:1:-8 1F38-1F3F:1:-8 1F48-1F4D:1:-8 1F59-1F5F:2:-8 1F68-1F6F:1:-8
   1F88-1F8F:1:-8 1F98-1F9F:1:-8 1FA8-1FAF:1:-8 1FB8-1FB9:1:-8 1FBA-1FBB:1:-74 1FBC-1FBC:1:-9
   1FC8-1FCB:1:-86 1FCC-1FCC:1:-9 1FD8-1FD9:1:-8 1FDA-1FDB:1:-100 1FE8-1FE9:1:-8
   1FEA-1FEB:1:-112 1FEC-1FEC:1:-7 1FF8-1FF9:1:-128 1FFA-1FFB:1:-126 1FFC-1FFC:1:-9
   2126-2126:1:-7517 212A-212A:1:-8383 212B-212B:1:-8262 2132-2132:1:28 2160-216F:1:16
   2183-2183:1:1 24B6-24CF:1:26 2C00-2C2F:1:48 2C60-2C60:1:1 2C62-2C62:1:-10743
   2C63-2C63:1:-3814 2C64-2C64:1:-10727 2C67-2C6B:2:1 2C6D-2C6D:1:-10780 2C6E-2C6E:1:-10749
   2C6F-2C6F:1:-10783 2C70-2C70:1:-10782 2C72-2C72:1:1 2C75-2C75:1:1 2C7E-2C7F:1:-10815
   2C80-2CE2:2:1 2CEB-2CED:2:1 2CF2-2CF2:1:1 A640-A66C:2:1 A680-A69A:2:1 A722-A72E:2:1
   A732-A76E:2:1 A779-A77B:2:1 A77D-A77D:1:-35332 A77E-A786:2:1 A78B-A78B:1:1
   A78D-A78D:1:-42280 A790-A792:2:1 A796-A7A8:2:1 A7AA-A7AA:1:-42308 A7AB-A7AB:1:-42319
   A7AC-A7AC:1:-42315 A7AD-A7AD:1:-42305 A7AE-A7AE:1:-42308 A7B0-A7B0:1:-42258
   A7B1-A7B1:1:-42282 A7B2-A7B2:1:-42261 A7B3-A7B3:1:928 A7B4-A7C2:2:1 A7C4-A7C4:1:-48
   A7C5-A7C5:1:-42307 A7C6-A7C6:1:-35384 A7C7-A7C9:2:1 A7D0-A7D0:1:1 A7D6-A7D8:2:1
   A7F5-A7F5:1:1 FF21-FF3A:1:32 10400-10427:1:40 104B0-104D3:1:40 10570-1057A:1:39
   1057C-1058A:1:39 1058C-10592:1:39 10594-10595:1:39 10C80-10CB2:1:64 118A0-118BF:1:32
   16E40-16E5F:1:32 1E900-1E921:1:34"

/-- The characters with an upper-case form other than themselves. -/
def upperRuns : List CaseRun := CaseRun.listOfText
  "61-7A:1:-32 B5-B5:1:743 DF-DF:1:-140 E0-F6:1:-32 F8-FE:1:-32 FF-FF:1:121 101-12F:2:-1
   131-131:1:-232 133-137:2:-1 13A-148:2:-1 149-149:1:371 14B-177:2:-1 17A-17E:2:-1
   17F-17F:1:-300 180-180:1:195 183-185:2:-1 188-188:1:-1 18C-18C:1:-1 192-192:1:-1
   195-195:1:97 199-199:1:-1 19A-19A:1:163 19E-19E:1:130 1A1-1A5:2:-1 1A8-1A8:1:-1 1AD-1AD:1:-1
   1B0-1B0:1:-1 1B4-1B6:2:-1 1B9-1B9:1:-1 1BD-1BD:1:-1 1BF-1BF:1:56 1C5-1C5:1:-1 1C6-1C6:1:-2
   1C8-1C8:1:-1 1C9-1C9:1:-2 1CB-1CB:1:-1 1CC-1CC:1:-2 1CE-1DC:2:-1 1DD-1DD:1:-79 1DF-1EF:2:-1
   1F0-1F0:1:-422 1F2-1F2:1:-1 1F3-1F3:1:-2 1F5-1F5:1:-1 1F9-21F:2:-1 223-233:2:-1 23C-23C:1:-1
   23F-240:1:10815 242-242:1:-1 247-24F:2:-1 250-250:1:10783 251-251:1:10780 252-252:1:10782
   253-253:1:-210 254-254:1:-206 256-257:1:-205 259-259:1:-202 25B-25B:1:-203 25C-25C:1:42319
   260-260:1:-205 261-261:1:42315 263-263:1:-207 265-265:1:42280 266-266:1:42308 268-268:1:-209
   269-269:1:-211 26A-26A:1:42308 26B-26B:1:10743 26C-26C:1:42305 26F-26F:1:-211
   271-271:1:10749 272-272:1:-213 275-275:1:-214 27D-27D:1:10727 280-280:1:-218 282-282:1:42307
   283-283:1:-218 287-287:1:42282 288-288:1:-218 289-289:1:-69 28A-28B:1:-217 28C-28C:1:-71
   292-292:1:-219 29D-29D:1:42261 29E-29E:1:42258 345-345:1:84 371-373:2:-1 377-377:1:-1
   37B-37D:1:130 390-390:1:9 3AC-3AC:1:-38 3AD-3AF:1:-37 3B0-3B0:1:-11 3B1-3C1:1:-32
   3C2-3C2:1:-31 3C3-3CB:1:-32 3CC-3CC:1:-64 3CD-3CE:1:-63 3D0-3D0:1:-62 3D1-3D1:1:-57
   3D5-3D5:1:-47 3D6-3D6:1:-54 3D7-3D7:1:-8 3D9-3EF:2:-1 3F0-3F0:1:-86 3F1-3F1:1:-80
   3F2-3F2:1:7 3F3-3F3:1:-116 3F5-3F5:1:-96 3F8-3F8:1:-1 3FB-3FB:1:-1 430-44F:1:-32
   450-45F:1:-80 461-481:2:-1 48B-4BF:2:-1 4C2-4CE:2:-1 4CF-4CF:1:-15 4D1-52F:2:-1
   561-586:1:-48 587-587:1:-82 10D0-10FA:1:3008 10FD-10FF:1:3008 13F8-13FD:1:-8
   1C80-1C80:1:-6254 1C81-1C81:1:-6253 1C82-1C82:1:-6244 1C83-1C84:1:-6242 1C85-1C85:1:-6243
   1C86-1C86:1:-6236 1C87-1C87:1:-6181 1C88-1C88:1:35266 1D79-1D79:1:35332 1D7D-1D7D:1:3814
   1D8E-1D8E:1:35384 1E01-1E95:2:-1 1E96-1E96:1:-7758 1E97-1E97:1:-7747 1E98-1E98:1:-7745
   1E99-1E99:1:-7744 1E9A-1E9A:1:-7769 1E9B-1E9B:1:-59 1EA1-1EFF:2:-1 1F00-1F07:1:8
   1F10-1F15:1:8 1F20-1F27:1:8 1F30-1F37:1:8 1F40-1F45:1:8 1F50-1F50:1:-7083 1F51-1F51:1:8
   1F52-1F52:1:-7085 1F53-1F53:1:8 1F54-1F54:1:-7087 1F55-1F55:1:8 1F56-1F56:1:-7089
   1F57-1F57:1:8 1F60-1F67:1:8 1F70-1F71:1:74 1F72-1F75:1:86 1F76-1F77:1:100 1F78-1F79:1:128
   1F7A-1F7B:1:112 1F7C-1F7D:1:126 1F80-1F87:1:-120 1F88-1F8F:1:-128 1F90-1F97:1:-104
   1F98-1F9F:1:-112 1FA0-1FA7:1:-56 1FA8-1FAF:1:-64 1FB0-1FB2:1:8 1FB3-1FB3:1:-7202
   1FB4-1FB4:1:-7214 1FB6-1FB6:1:-7205 1FB7-1FB7:1:-7206 1FBC-1FBC:1:-7211 1FBE-1FBE:1:-7205
   1FC2-1FC2:1:8 1FC3-1FC3:1:-7212 1FC4-1FC4:1:-7227 1FC6-1FC6:1:-7215 1FC7-1FC7:1:-7216
   1FCC-1FCC:1:-7221 1FD0-1FD1:1:8 1FD2-1FD2:1:-7225 1FD3-1FD3:1:-7226 1FD6-1FD6:1:-7229
   1FD7-1FD7:1:-7230 1FE0-1FE1:1:8 1FE2-1FE2:1:-7229 1FE3-1FE3:1:-7230 1FE4-1FE4:1:-7235
   1FE5-1FE5:1:7 1FE6-1FE6:1:-7233 1FE7-1FE7:1:-7234 1FF2-1FF2:1:8 1FF3-1FF3:1:-7242
   1FF4-1FF4:1:-7269 1FF6-1FF6:1:-7245 1FF7-1FF7:1:-7246 1FFC-1FFC:1:-7251 214E-214E:1:-28
   2170-217F:1:-16 2184-2184:1:-1 24D0-24E9:1:-26 2C30-2C5F:1:-48 2C61-2C61:1:-1
   2C65-2C65:1:-10795 2C66-2C66:1:-10792 2C68-2C6C:2:-1 2C73-2C73:1:-1 2C76-2C76:1:-1
   2C81-2CE3:2:-1 2CEC-2CEE:2:-1 2CF3-2CF3:1:-1 2D00-2D25:1:-7264 2D27-2D27:1:-7264
   2D2D-2D2D:1:-7264 A641-A66D:2:-1 A681-A69B:2:-1 A723-A72F:2:-1 A733-A76F:2:-1 A77A-A77C:2:-1
   A77F-A787:2:-1 A78C-A78C:1:-1 A791-A793:2:-1 A794-A794:1:48 A797-A7A9:2:-1 A7B5-A7C3:2:-1
   A7C8-A7CA:2:-1 A7D1-A7D1:1:-1 A7D7-A7D9:2:-1 A7F6-A7F6:1:-1 AB53-AB53:1:-928
   AB70-ABBF:1:-38864 FB00-FB00:1:-64186 FB01-FB01:1:-64187 FB02-FB02:1:-64188
   FB03-FB03:1:-64189 FB04-FB04:1:-64190 FB05-FB05:1:-64178 FB06-FB06:1:-64179
   FB13-FB13:1:-62927 FB14-FB14:1:-62928 FB15-FB15:1:-62929 FB16-FB16:1:-62920
   FB17-FB17:1:-62931 FF41-FF5A:1:-32 10428-1044F:1:-40 104D8-104FB:1:-40 10597-105A1:1:-39
   105A3-105B1:1:-39 105B3-105B9:1:-39 105BB-105BC:1:-39 10CC0-10CF2:1:-64 118C0-118DF:1:-32
   16E60-16E7F:1:-32 1E922-1E943:1:-34"

/-- Lower case within ASCII. -/
def asciiLower (c : Nat) : Nat :=
  if 65 ≤ c && c ≤ 90 then c + 32 else c

/-- The lower-case form. -/
def lower (c : Nat) : Nat :=
  if c < 128 then asciiLower c else CaseRun.apply lowerRuns c

/-- The upper-case form. -/
def upper (c : Nat) : Nat :=
  if c < 128 then (if 97 ≤ c && c ≤ 122 then c - 32 else c) else CaseRun.apply upperRuns c

/-- The characters with the lower-case form `c`. -/
def lowerSources (c : Nat) : List Nat :=
  (if lower c = c then [c] else []) ++
    lowerRuns.filterMap fun run =>
      let source := (Int.ofNat c - run.distance).toNat
      if run.covers source && lower source == c then some source else none

/-- Items `c:d` or `c:d,e`: characters with the same upper-case form. -/
def variantText : String :=
  "69:131 73:17F B5:3BC 131:69 17F:73 345:3B9,1FBE 390:1FD3 3B0:1FE3 3B2:3D0 3B5:3F5 3B8:3D1
   3B9:345,1FBE 3BA:3F0 3BC:B5 3C0:3D6 3C1:3F1 3C2:3C3 3C3:3C2 3C6:3D5 3D0:3B2 3D1:3B8 3D5:3C6
   3D6:3C0 3F0:3BA 3F1:3C1 3F5:3B5 432:1C80 434:1C81 43E:1C82 441:1C83 442:1C84,1C85 44A:1C86
   463:1C87 1C80:432 1C81:434 1C82:43E 1C83:441 1C84:442,1C85 1C85:442,1C84 1C86:44A 1C87:463
   1C88:A64B 1E61:1E9B 1E9B:1E61 1FBE:345,3B9 1FD3:390 1FE3:3B0 A64B:1C88 FB05:FB06 FB06:FB05"

/-- Reads one item of the table. -/
def readVariants (item : List Char) : Nat × List Nat :=
  match splitAt ':' item with
  | [key, others] => (hexNumber key, (splitAt ',' others).map hexNumber)
  | _ => (0, [])

/-- Lower-case characters with the other lower-case characters of the same upper-case form. -/
def variantTable : List (Nat × List Nat) := (words variantText.toList).map readVariants

/-- The lower-case characters that share an upper-case form with the lower-case `c`. -/
def lowerVariants (c : Nat) : List Nat := (variantTable.lookup c).getD []

end CommitRules.Text
