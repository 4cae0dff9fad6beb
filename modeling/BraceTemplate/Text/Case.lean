import BraceTemplate.Text.Category

/-!
# Letter case

Upper and lower case forms of texts.  Some characters have upper case forms of
several characters; a final sigma has a lower case form of its own.
-/

namespace BraceTemplate.Text

/-- Maps `count` code points from `first` on, `step` apart, to those `shift` away. -/
structure CaseRun where
  first : Nat
  count : Nat
  step : Nat
  shift : Int
  deriving Repr

namespace CaseRun

def signedHexValue (t : Text) : Int :=
  match t with
  | '-' :: digits => -(hexValue digits : Int)
  | digits => hexValue digits

def ofLines (lines : List String) : Array CaseRun :=
  ((wordsOfLines lines).filterMap fun word =>
    match fields (· == ',') word with
    | [first, count, step, shift] =>
        some ⟨hexValue first, hexValue count, hexValue step, signedHexValue shift⟩
    | _ => none).toArray

def image? (run : CaseRun) (code : Nat) : Option Nat :=
  if run.first ≤ code && code < run.first + run.count * run.step &&
      (code - run.first) % run.step == 0 then
    some ((code : Int) + run.shift).toNat
  else none

def preimage? (run : CaseRun) (code : Nat) : Option Nat :=
  let source := ((code : Int) - run.shift).toNat
  if run.image? source == some code then some source else none

def pairs (run : CaseRun) : List (Nat × Nat) :=
  (List.range run.count).map fun i =>
    let source := run.first + i * run.step
    (source, ((source : Int) + run.shift).toNat)

end CaseRun

def upperRuns : Array CaseRun := CaseRun.ofLines
  ["61,1a,1,-20 b5,1,1,2e7 e0,17,1,-20 f8,7,1,-20 ff,1,1,79 101,18,2,-1 131,1,1,-e8 133,3,2,-1",
   "13a,8,2,-1 14b,17,2,-1 17a,3,2,-1 17f,1,1,-12c 180,1,1,c3 183,2,2,-1 188,1,1,-1 18c,1,1,-1",
   "192,1,1,-1 195,1,1,61 199,1,1,-1 19a,1,1,a3 19b,1,1,a641 19e,1,1,82 1a1,3,2,-1 1a8,1,1,-1",
   "1ad,1,1,-1 1b0,1,1,-1 1b4,2,2,-1 1b9,1,1,-1 1bd,1,1,-1 1bf,1,1,38 1c5,1,1,-1 1c6,1,1,-2",
   "1c8,1,1,-1 1c9,1,1,-2 1cb,1,1,-1 1cc,1,1,-2 1ce,8,2,-1 1dd,1,1,-4f 1df,9,2,-1 1f2,1,1,-1",
   "1f3,1,1,-2 1f5,1,1,-1 1f9,14,2,-1 223,9,2,-1 23c,1,1,-1 23f,2,1,2a3f 242,1,1,-1 247,5,2,-1",
   "250,1,1,2a1f 251,1,1,2a1c 252,1,1,2a1e 253,1,1,-d2 254,1,1,-ce 256,2,1,-cd 259,1,1,-ca",
   "25b,1,1,-cb 25c,1,1,a54f 260,1,1,-cd 261,1,1,a54b 263,1,1,-cf 264,1,1,a567 265,1,1,a528",
   "266,1,1,a544 268,1,1,-d1 269,1,1,-d3 26a,1,1,a544 26b,1,1,29f7 26c,1,1,a541 26f,1,1,-d3",
   "271,1,1,29fd 272,1,1,-d5 275,1,1,-d6 27d,1,1,29e7 280,1,1,-da 282,1,1,a543 283,1,1,-da",
   "287,1,1,a52a 288,1,1,-da 289,1,1,-45 28a,2,1,-d9 28c,1,1,-47 292,1,1,-db 29d,1,1,a515",
   "29e,1,1,a512 345,1,1,54 371,2,2,-1 377,1,1,-1 37b,3,1,82 3ac,1,1,-26 3ad,3,1,-25",
   "3b1,11,1,-20 3c2,1,1,-1f 3c3,9,1,-20 3cc,1,1,-40 3cd,2,1,-3f 3d0,1,1,-3e 3d1,1,1,-39",
   "3d5,1,1,-2f 3d6,1,1,-36 3d7,1,1,-8 3d9,c,2,-1 3f0,1,1,-56 3f1,1,1,-50 3f2,1,1,7 3f3,1,1,-74",
   "3f5,1,1,-60 3f8,1,1,-1 3fb,1,1,-1 430,20,1,-20 450,10,1,-50 461,11,2,-1 48b,1b,2,-1",
   "4c2,7,2,-1 4cf,1,1,-f 4d1,30,2,-1 561,26,1,-30 10d0,2b,1,bc0 10fd,3,1,bc0 13f8,6,1,-8",
   "1c80,1,1,-186e 1c81,1,1,-186d 1c82,1,1,-1864 1c83,2,1,-1862 1c85,1,1,-1863 1c86,1,1,-185c",
   "1c87,1,1,-1825 1c88,1,1,89c2 1c8a,1,1,-1 1d79,1,1,8a04 1d7d,1,1,ee6 1d8e,1,1,8a38",
   "1e01,4b,2,-1 1e9b,1,1,-3b 1ea1,30,2,-1 1f00,8,1,8 1f10,6,1,8 1f20,8,1,8 1f30,8,1,8",
   "1f40,6,1,8 1f51,4,2,8 1f60,8,1,8 1f70,2,1,4a 1f72,4,1,56 1f76,2,1,64 1f78,2,1,80 1f7a,2,1,70",
   "1f7c,2,1,7e 1fb0,2,1,8 1fbe,1,1,-1c25 1fd0,2,1,8 1fe0,2,1,8 1fe5,1,1,7 214e,1,1,-1c",
   "2170,10,1,-10 2184,1,1,-1 24d0,1a,1,-1a 2c30,30,1,-30 2c61,1,1,-1 2c65,1,1,-2a2b",
   "2c66,1,1,-2a28 2c68,3,2,-1 2c73,1,1,-1 2c76,1,1,-1 2c81,32,2,-1 2cec,2,2,-1 2cf3,1,1,-1",
   "2d00,26,1,-1c60 2d27,1,1,-1c60 2d2d,1,1,-1c60 a641,17,2,-1 a681,e,2,-1 a723,7,2,-1",
   "a733,1f,2,-1 a77a,2,2,-1 a77f,5,2,-1 a78c,1,1,-1 a791,2,2,-1 a794,1,1,30 a797,a,2,-1",
   "a7b5,8,2,-1 a7c8,2,2,-1 a7cd,8,2,-1 a7f6,1,1,-1 ab53,1,1,-3a0 ab70,50,1,-97d0 ff41,1a,1,-20",
   "10428,28,1,-28 104d8,24,1,-28 10597,13,2,-27 10598,5,2,-27 105a4,7,2,-27 105b4,3,2,-27",
   "105bc,1,1,-27 10cc0,33,1,-40 10d70,16,1,-20 118c0,20,1,-20 16e60,20,1,-20 16ebb,19,1,-1b",
   "1e922,22,1,-22"]

def lowerRuns : Array CaseRun := CaseRun.ofLines
  ["41,1a,1,20 c0,17,1,20 d8,7,1,20 100,18,2,1 132,3,2,1 139,8,2,1 14a,17,2,1 178,1,1,-79",
   "179,3,2,1 181,1,1,d2 182,2,2,1 186,1,1,ce 187,1,1,1 189,2,1,cd 18b,1,1,1 18e,1,1,4f",
   "18f,1,1,ca 190,1,1,cb 191,1,1,1 193,1,1,cd 194,1,1,cf 196,1,1,d3 197,1,1,d1 198,1,1,1",
   "19c,1,1,d3 19d,1,1,d5 19f,1,1,d6 1a0,3,2,1 1a6,1,1,da 1a7,1,1,1 1a9,1,1,da 1ac,1,1,1",
   "1ae,1,1,da 1af,1,1,1 1b1,2,1,d9 1b3,2,2,1 1b7,1,1,db 1b8,1,1,1 1bc,1,1,1 1c4,1,1,2 1c5,1,1,1",
   "1c7,1,1,2 1c8,1,1,1 1ca,1,1,2 1cb,9,2,1 1de,9,2,1 1f1,1,1,2 1f2,2,2,1 1f6,1,1,-61",
   "1f7,1,1,-38 1f8,14,2,1 220,1,1,-82 222,9,2,1 23a,1,1,2a2b 23b,1,1,1 23d,1,1,-a3 23e,1,1,2a28",
   "241,1,1,1 243,1,1,-c3 244,1,1,45 245,1,1,47 246,5,2,1 370,2,2,1 376,1,1,1 37f,1,1,74",
   "386,1,1,26 388,3,1,25 38c,1,1,40 38e,2,1,3f 391,11,1,20 3a3,9,1,20 3cf,1,1,8 3d8,c,2,1",
   "3f4,1,1,-3c 3f7,1,1,1 3f9,1,1,-7 3fa,1,1,1 3fd,3,1,-82 400,10,1,50 410,20,1,20 460,11,2,1",
   "48a,1b,2,1 4c0,1,1,f 4c1,7,2,1 4d0,30,2,1 531,26,1,30 10a0,26,1,1c60 10c7,1,1,1c60",
   "10cd,1,1,1c60 13a0,50,1,97d0 13f0,6,1,8 1c89,1,1,1 1c90,2b,1,-bc0 1cbd,3,1,-bc0 1e00,4b,2,1",
   "1e9e,1,1,-1dbf 1ea0,30,2,1 1f08,8,1,-8 1f18,6,1,-8 1f28,8,1,-8 1f38,8,1,-8 1f48,6,1,-8",
   "1f59,4,2,-8 1f68,8,1,-8 1f88,8,1,-8 1f98,8,1,-8 1fa8,8,1,-8 1fb8,2,1,-8 1fba,2,1,-4a",
   "1fbc,1,1,-9 1fc8,4,1,-56 1fcc,1,1,-9 1fd8,2,1,-8 1fda,2,1,-64 1fe8,2,1,-8 1fea,2,1,-70",
   "1fec,1,1,-7 1ff8,2,1,-80 1ffa,2,1,-7e 1ffc,1,1,-9 2126,1,1,-1d5d 212a,1,1,-20bf",
   "212b,1,1,-2046 2132,1,1,1c 2160,10,1,10 2183,1,1,1 24b6,1a,1,1a 2c00,30,1,30 2c60,1,1,1",
   "2c62,1,1,-29f7 2c63,1,1,-ee6 2c64,1,1,-29e7 2c67,3,2,1 2c6d,1,1,-2a1c 2c6e,1,1,-29fd",
   "2c6f,1,1,-2a1f 2c70,1,1,-2a1e 2c72,1,1,1 2c75,1,1,1 2c7e,2,1,-2a3f 2c80,32,2,1 2ceb,2,2,1",
   "2cf2,1,1,1 a640,17,2,1 a680,e,2,1 a722,7,2,1 a732,1f,2,1 a779,2,2,1 a77d,1,1,-8a04",
   "a77e,5,2,1 a78b,1,1,1 a78d,1,1,-a528 a790,2,2,1 a796,a,2,1 a7aa,1,1,-a544 a7ab,1,1,-a54f",
   "a7ac,1,1,-a54b a7ad,1,1,-a541 a7ae,1,1,-a544 a7b0,1,1,-a512 a7b1,1,1,-a52a a7b2,1,1,-a515",
   "a7b3,1,1,3a0 a7b4,8,2,1 a7c4,1,1,-30 a7c5,1,1,-a543 a7c6,1,1,-8a38 a7c7,2,2,1 a7cb,1,1,-a567",
   "a7cc,8,2,1 a7dc,1,1,-a641 a7f5,1,1,1 ff21,1a,1,20 10400,28,1,28 104b0,24,1,28 10570,13,2,27",
   "10571,5,2,27 1057d,7,2,27 1058d,3,2,27 10595,1,1,27 10c80,33,1,40 10d50,16,1,20",
   "118a0,20,1,20 16e40,20,1,20 16ea0,19,1,1b 1e900,22,1,22"]

def upperExpansions : List (Nat × Text) :=
  (wordsOfLines
    ["df:53,53 149:2bc,4e 1f0:4a,30c 390:399,308,301 3b0:3a5,308,301 587:535,552 1e96:48,331",
     "1e97:54,308 1e98:57,30a 1e99:59,30a 1e9a:41,2be 1f50:3a5,313 1f52:3a5,313,300",
     "1f54:3a5,313,301 1f56:3a5,313,342 1f80:1f08,399 1f81:1f09,399 1f82:1f0a,399 1f83:1f0b,399",
     "1f84:1f0c,399 1f85:1f0d,399 1f86:1f0e,399 1f87:1f0f,399 1f88:1f08,399 1f89:1f09,399",
     "1f8a:1f0a,399 1f8b:1f0b,399 1f8c:1f0c,399 1f8d:1f0d,399 1f8e:1f0e,399 1f8f:1f0f,399",
     "1f90:1f28,399 1f91:1f29,399 1f92:1f2a,399 1f93:1f2b,399 1f94:1f2c,399 1f95:1f2d,399",
     "1f96:1f2e,399 1f97:1f2f,399 1f98:1f28,399 1f99:1f29,399 1f9a:1f2a,399 1f9b:1f2b,399",
     "1f9c:1f2c,399 1f9d:1f2d,399 1f9e:1f2e,399 1f9f:1f2f,399 1fa0:1f68,399 1fa1:1f69,399",
     "1fa2:1f6a,399 1fa3:1f6b,399 1fa4:1f6c,399 1fa5:1f6d,399 1fa6:1f6e,399 1fa7:1f6f,399",
     "1fa8:1f68,399 1fa9:1f69,399 1faa:1f6a,399 1fab:1f6b,399 1fac:1f6c,399 1fad:1f6d,399",
     "1fae:1f6e,399 1faf:1f6f,399 1fb2:1fba,399 1fb3:391,399 1fb4:386,399 1fb6:391,342",
     "1fb7:391,342,399 1fbc:391,399 1fc2:1fca,399 1fc3:397,399 1fc4:389,399 1fc6:397,342",
     "1fc7:397,342,399 1fcc:397,399 1fd2:399,308,300 1fd3:399,308,301 1fd6:399,342",
     "1fd7:399,308,342 1fe2:3a5,308,300 1fe3:3a5,308,301 1fe4:3a1,313 1fe6:3a5,342",
     "1fe7:3a5,308,342 1ff2:1ffa,399 1ff3:3a9,399 1ff4:38f,399 1ff6:3a9,342 1ff7:3a9,342,399",
     "1ffc:3a9,399 fb00:46,46 fb01:46,49 fb02:46,4c fb03:46,46,49 fb04:46,46,4c fb05:53,54",
     "fb06:53,54 fb13:544,546 fb14:544,535 fb15:544,53b fb16:54e,546 fb17:544,53d"]).map fun word =>
    let code := word.takeWhile (· != ':')
    (hexValue code,
      (fields (· == ',') (word.drop (code.length + 1))).map fun digits =>
        Char.ofNat (hexValue digits))

def mapCase (runs : Array CaseRun) (c : Char) : Char :=
  ((runs.findSome? fun run => run.image? c.toNat).map Char.ofNat).getD c

def upperForm (c : Char) : Text :=
  if c.toNat < 0x80 then [c.toUpper]
  else match upperExpansions.lookup c.toNat with
    | some form => form
    | none => [mapCase upperRuns c]

def lowerForm (c : Char) : Text :=
  if c.toNat < 0x80 then [c.toLower]
  else if c.toNat == 0x130 then ['i', Char.ofNat 0x307]
  else [mapCase lowerRuns c]

def toUpper (t : Text) : Text := t.flatMap upperForm

/--
A sigma is final if a cased character stands before it and none after it, ignorable ones
skipped.
-/
def sigmaForm (before after : Text) : Char :=
  let touchesCased := fun (t : Text) => ((t.dropWhile isCaseIgnorable).head?.map isCased).getD false
  if touchesCased before && !touchesCased after then Char.ofNat 0x3C2 else Char.ofNat 0x3C3

/-- Lower case form of a text behind `before` and `done` (both in reverse). -/
def toLowerFrom (before done : Text) : Text → Text
  | [] => done.reverse
  | c :: rest =>
      let form := if c.toNat == 0x3A3 then [sigmaForm before rest] else lowerForm c
      toLowerFrom (c :: before) (form.reverse ++ done) rest

def toLower (t : Text) : Text := toLowerFrom [] [] t

end BraceTemplate.Text
