import BraceTemplate.Text.CodeSet

/-!
# Scripts

The script of every character, by its four-letter code, and the scripts that a
character is used in where these are not just its own.
-/

namespace BraceTemplate.Pattern.Class

open Text

structure ScriptName where
  long : Text
  code : Text
  deriving DecidableEq, Repr

def scriptNames : List ScriptName :=
  (wordsOfLines
    ["Adlam:Adlm Caucasian_Albanian:Aghb Ahom:Ahom Arabic:Arab Imperial_Aramaic:Armi",
     "Armenian:Armn Avestan:Avst Balinese:Bali Bamum:Bamu Bassa_Vah:Bass Batak:Batk",
     "Bengali:Beng Bhaiksuki:Bhks Bopomofo:Bopo Brahmi:Brah Braille:Brai Buginese:Bugi",
     "Buhid:Buhd Chakma:Cakm Canadian_Aboriginal:Cans Carian:Cari Cham:Cham Cherokee:Cher",
     "Chorasmian:Chrs Coptic:Copt Cypro_Minoan:Cpmn Cypriot:Cprt Cyrillic:Cyrl Devanagari:Deva",
     "Dives_Akuru:Diak Dogra:Dogr Deseret:Dsrt Duployan:Dupl Egyptian_Hieroglyphs:Egyp",
     "Elbasan:Elba Elymaic:Elym Ethiopic:Ethi Garay:Gara Georgian:Geor Glagolitic:Glag",
     "Gunjala_Gondi:Gong Masaram_Gondi:Gonm Gothic:Goth Grantha:Gran Greek:Grek Gujarati:Gujr",
     "Gurung_Khema:Gukh Gurmukhi:Guru Hangul:Hang Han:Hani Hanunoo:Hano Hatran:Hatr",
     "Hebrew:Hebr Hiragana:Hira Anatolian_Hieroglyphs:Hluw Pahawh_Hmong:Hmng",
     "Nyiakeng_Puachue_Hmong:Hmnp Old_Hungarian:Hung Old_Italic:Ital Javanese:Java",
     "Kayah_Li:Kali Katakana:Kana Kawi:Kawi Kharoshthi:Khar Khmer:Khmr Khojki:Khoj",
     "Khitan_Small_Script:Kits Kannada:Knda Kirat_Rai:Krai Kaithi:Kthi Tai_Tham:Lana Lao:Laoo",
     "Latin:Latn Lepcha:Lepc Limbu:Limb Linear_A:Lina Linear_B:Linb Lisu:Lisu Lycian:Lyci",
     "Lydian:Lydi Mahajani:Mahj Makasar:Maka Mandaic:Mand Manichaean:Mani Marchen:Marc",
     "Medefaidrin:Medf Mende_Kikakui:Mend Meroitic_Cursive:Merc Meroitic_Hieroglyphs:Mero",
     "Malayalam:Mlym Modi:Modi Mongolian:Mong Mro:Mroo Meetei_Mayek:Mtei Multani:Mult",
     "Myanmar:Mymr Nag_Mundari:Nagm Nandinagari:Nand Old_North_Arabian:Narb Nabataean:Nbat",
     "Newa:Newa Nko:Nkoo Nushu:Nshu Ogham:Ogam Ol_Chiki:Olck Ol_Onal:Onao Old_Turkic:Orkh",
     "Oriya:Orya Osage:Osge Osmanya:Osma Old_Uyghur:Ougr Palmyrene:Palm Pau_Cin_Hau:Pauc",
     "Old_Permic:Perm Phags_Pa:Phag Inscriptional_Pahlavi:Phli Psalter_Pahlavi:Phlp",
     "Phoenician:Phnx Miao:Plrd Inscriptional_Parthian:Prti Rejang:Rjng Hanifi_Rohingya:Rohg",
     "Runic:Runr Samaritan:Samr Old_South_Arabian:Sarb Saurashtra:Saur SignWriting:Sgnw",
     "Shavian:Shaw Sharada:Shrd Siddham:Sidd Khudawadi:Sind Sinhala:Sinh Sogdian:Sogd",
     "Old_Sogdian:Sogo Sora_Sompeng:Sora Soyombo:Soyo Sundanese:Sund Sunuwar:Sunu",
     "Syloti_Nagri:Sylo Syriac:Syrc Tagbanwa:Tagb Takri:Takr Tai_Le:Tale New_Tai_Lue:Talu",
     "Tamil:Taml Tangut:Tang Tai_Viet:Tavt Telugu:Telu Tifinagh:Tfng Tagalog:Tglg Thaana:Thaa",
     "Thai:Thai Tibetan:Tibt Tirhuta:Tirh Tangsa:Tnsa Todhri:Todr Toto:Toto Tulu_Tigalari:Tutg",
     "Ugaritic:Ugar Vai:Vaii Vithkuqi:Vith Warang_Citi:Wara Wancho:Wcho Old_Persian:Xpeo",
     "Cuneiform:Xsux Yezidi:Yezi Yi:Yiii Zanabazar_Square:Zanb Inherited:Zinh Common:Zyyy"]).map
    fun word =>
      let long := word.takeWhile (· != ':')
      ⟨long, word.drop (long.length + 1)⟩

def formerCodes : List ScriptName :=
  [⟨['q', 'a', 'a', 'c'], ['C', 'o', 'p', 't']⟩, ⟨['q', 'a', 'a', 'i'], ['Z', 'i', 'n', 'h']⟩]

def scriptRuns : Runs Text := Runs.ofLines id
  ["41Zyyy 1aLatn 6Zyyy 1aLatn 2fZyyy 1Latn fZyyy 1Latn 5Zyyy 17Latn 1Zyyy 1fLatn 1Zyyy 1c1Latn",
   "27Zyyy 5Latn 5Zyyy 2Bopo 14Zyyy 70Zinh 4Grek 1Zyyy 3Grek 2 4Grek 1Zyyy 1Grek 4 1Grek 1Zyyy",
   "1Grek 1Zyyy 3Grek 1 1Grek 1 14Grek 1 3fGrek eCopt 10Grek 85Cyrl 2Zinh a9Cyrl 1 26Armn 2",
   "32Armn 2 3Armn 1 37Hebr 8 1bHebr 4 6Hebr b 5Arab 1Zyyy 6Arab 1Zyyy eArab 1Zyyy 3Arab 1Zyyy",
   "20Arab 1Zyyy aArab bZinh 1aArab 1Zinh 6cArab 1Zyyy 22Arab eSyrc 1 3cSyrc 2 3Syrc 30Arab",
   "32Thaa e 3bNkoo 2 3Nkoo 2eSamr 2 fSamr 1 1cMand 2 1Mand 1 bSyrc 5 1fArab 1 2Arab 5 4bArab",
   "1Zyyy 1dArab 51Deva 4Zinh fDeva 2Zyyy 1aDeva 4Beng 1 8Beng 2 2Beng 2 16Beng 1 7Beng 1 1Beng",
   "3 4Beng 2 9Beng 2 2Beng 2 4Beng 8 1Beng 4 2Beng 1 5Beng 2 19Beng 2 3Guru 1 6Guru 4 2Guru 2",
   "16Guru 1 7Guru 1 2Guru 1 2Guru 1 2Guru 2 1Guru 1 5Guru 4 2Guru 2 3Guru 3 1Guru 7 4Guru 1",
   "1Guru 7 11Guru a 3Gujr 1 9Gujr 1 3Gujr 1 16Gujr 1 7Gujr 1 2Gujr 1 5Gujr 2 aGujr 1 3Gujr 1",
   "3Gujr 2 1Gujr f 4Gujr 2 cGujr 7 7Gujr 1 3Orya 1 8Orya 2 2Orya 2 16Orya 1 7Orya 1 2Orya 1",
   "5Orya 2 9Orya 2 2Orya 2 3Orya 7 3Orya 4 2Orya 1 5Orya 2 12Orya a 2Taml 1 6Taml 3 3Taml 1",
   "4Taml 3 2Taml 1 1Taml 1 2Taml 3 2Taml 3 3Taml 3 cTaml 4 5Taml 3 3Taml 1 4Taml 2 1Taml 6",
   "1Taml e 15Taml 5 dTelu 1 3Telu 1 17Telu 1 10Telu 2 9Telu 1 3Telu 1 4Telu 7 2Telu 1 3Telu 2",
   "1Telu 2 4Telu 2 aTelu 7 9Telu dKnda 1 3Knda 1 17Knda 1 aKnda 1 5Knda 2 9Knda 1 3Knda 1 4Knda",
   "7 2Knda 6 2Knda 1 4Knda 2 aKnda 1 3Knda c dMlym 1 3Mlym 1 33Mlym 1 3Mlym 1 6Mlym 4 10Mlym 2",
   "1aMlym 1 3Sinh 1 12Sinh 3 18Sinh 1 9Sinh 1 1Sinh 2 7Sinh 3 1Sinh 4 6Sinh 1 1Sinh 1 8Sinh 6",
   "aSinh 2 3Sinh c 3aThai 4 1Zyyy 1cThai 25 2Laoo 1 1Laoo 1 5Laoo 1 18Laoo 1 1Laoo 1 17Laoo 2",
   "5Laoo 1 1Laoo 1 7Laoo 1 aLaoo 2 4Laoo 20 48Tibt 1 24Tibt 4 27Tibt 1 24Tibt 1 fTibt 1 7Tibt",
   "4Zyyy 2Tibt 25 a0Mymr 26Geor 1 1Geor 5 1Geor 2 2bGeor 1Zyyy 4Geor 100Hang 49Ethi 1 4Ethi 2",
   "7Ethi 1 1Ethi 1 4Ethi 2 29Ethi 1 4Ethi 2 21Ethi 1 4Ethi 2 7Ethi 1 1Ethi 1 4Ethi 2 fEthi 1",
   "39Ethi 1 4Ethi 2 43Ethi 2 20Ethi 3 1aEthi 6 56Cher 2 6Cher 2 280Cans 1dOgam 3 4bRunr 3Zyyy",
   "bRunr 7 16Tglg 9 1Tglg 15Hano 2Zyyy 9 14Buhd c dTagb 1 3Tagb 1 2Tagb c 5eKhmr 2 aKhmr 6",
   "aKhmr 6 2Mong 2Zyyy 1Mong 1Zyyy 14Mong 6 59Mong 7 2bMong 5 46Cans a 1fLimb 1 cLimb 4 cLimb 4",
   "1Limb 3 cLimb 1eTale 2 5Tale b 2cTalu 4 1aTalu 6 bTalu 3 2Talu 20Khmr 1cBugi 2 2Bugi 3fLana",
   "1 1dLana 2 bLana 6 aLana 6 eLana 2 1fZinh 31 4dBali 1 32Bali 40Sund 34Batk 8 4Batk 38Lepc 3",
   "fLepc 3 3Lepc 30Olck bCyrl 5 2bGeor 2 3Geor 8Sund 8 3Zinh 1Zyyy dZinh 1Zyyy 7Zinh 4Zyyy",
   "1Zinh 6Zyyy 1Zinh 3Zyyy 2Zinh 1Zyyy 5 26Latn 5Grek 1Cyrl 31Latn 5Grek 4Latn 5Grek dLatn",
   "1Cyrl 46Latn 1Grek 40Zinh 100Latn 16Grek 2 6Grek 2 26Grek 2 6Grek 2 8Grek 1 1Grek 1 1Grek 1",
   "1Grek 1 1fGrek 2 35Grek 1 fGrek 1 eGrek 2 6Grek 1 13Grek 2 3Grek 1 9Grek 1 cZyyy 2Zinh",
   "57Zyyy 1 bZyyy 1Latn 2 bZyyy 1Latn fZyyy 1 dLatn 3 21Zyyy f 21Zinh f 26Zyyy 1Grek 3Zyyy",
   "2Latn 6Zyyy 1Latn 1bZyyy 1Latn 11Zyyy 29Latn 3Zyyy 4 29aZyyy 16 bZyyy 15 3a0Zyyy 100Brai",
   "274Zyyy 2 20Zyyy 1 69Zyyy 60Glag 20Latn 74Copt 5 7Copt 26Geor 1 1Geor 5 1Geor 2 38Tfng 7",
   "2Tfng e 1Tfng 17Ethi 9 7Ethi 1 7Ethi 1 7Ethi 1 7Ethi 1 7Ethi 1 7Ethi 1 7Ethi 1 7Ethi 1",
   "20Cyrl 5eZyyy 22 1aHani 1 59Hani c d6Hani 1a 15Zyyy 1Hani 1Zyyy 1Hani 19Zyyy 9Hani 4Zinh",
   "2Hang 8Zyyy 4Hani 4Zyyy 1 56Hira 2 2Zinh 2Zyyy 3Hira 1Zyyy 5aKana 2Zyyy 3Kana 5 2bBopo 1",
   "5eHang 1 10Zyyy 20Bopo 26Zyyy 9 1Zyyy 10Kana 1fHang 1 40Zyyy 1fHang 51Zyyy 2fKana 1Zyyy",
   "58Kana a8Zyyy 19c0Hani 40Zyyy 5200Hani 48dYiii 3 37Yiii 9 30Lisu 12cVaii 14 60Cyrl 58Bamu 8",
   "22Zyyy 66Latn 3Zyyy 43Latn 2 2Latn 1 1Latn 1 8Latn 15 eLatn 2dSylo 3 aZyyy 6 38Phag 8 46Saur",
   "8 cSaur 6 20Deva 2eKali 1Zyyy 1Kali 24Rjng b 1Rjng 1dHang 3 4eJava 1 1Zyyy aJava 4 2Java",
   "1fMymr 1 37Cham 9 eCham 2 aCham 2 4Cham 20Mymr 43Tavt 18 5Tavt 17Mtei a 6Ethi 2 6Ethi 2",
   "6Ethi 9 7Ethi 1 7Ethi 1 2bLatn 1Zyyy 9Latn 1Grek 4Latn 2Zyyy 4 50Cher 2eMtei 2 aMtei 6",
   "2ba4Hang c 17Hang 4 31Hang 2104 16eHani 2 6aHani 26 7Latn c 5Armn 5 1aHebr 1 5Hebr 1 1Hebr 1",
   "2Hebr 1 2Hebr 1 aHebr 73Arab 10 16bArab 2Zyyy 50Arab 2 36Arab 7 1Arab 20 10Arab 10Zinh aZyyy",
   "6 eZinh 2Cyrl 23Zyyy 1 13Zyyy 1 4Zyyy 4 5Arab 1 87Arab 2 1Zyyy 1 20Zyyy 1aLatn 6Zyyy 1aLatn",
   "bZyyy aKana 1Zyyy 2dKana 2Zyyy 1fHang 3 6Hang 2 6Hang 2 6Hang 2 3Hang 3 7Zyyy 1 7Zyyy a",
   "5Zyyy 2 cLinb 1 1aLinb 1 13Linb 1 2Linb 1 fLinb 2 eLinb 22 7bLinb 5 3Zyyy 4 2dZyyy 3 9Zyyy",
   "4fGrek 1 dZyyy 3 1Grek 2f 2dZyyy 1Zinh 82 1dLyci 3 31Cari f 1Zinh 1bZyyy 4 24Ital 9 3Ital",
   "1bGoth 5 2bPerm 5 1eUgar 1 1Ugar 24Xpeo 4 eXpeo 2a 50Dsrt 30Shaw 1eOsma 2 aOsma 6 24Osge 4",
   "24Osge 4 28Elba 8 34Aghb b 1Aghb bVith 1 fVith 1 7Vith 1 2Vith 1 bVith 1 fVith 1 7Vith 1",
   "2Vith 3 34Todr c 137Lina 9 16Lina a 8Lina 18 6Latn 1 2aLatn 1 9Latn 45 6Cprt 2 1Cprt 1",
   "2cCprt 1 2Cprt 3 1Cprt 2 1Cprt 16Armi 1 9Armi 20Palm 1fNbat 8 9Nbat 30 13Hatr 1 2Hatr 5",
   "5Hatr 1cPhnx 3 1Phnx 1aLydi 5 1Lydi 40 20Mero 18Merc 4 14Merc 2 2eMerc 4Khar 1 2Khar 5 8Khar",
   "1 3Khar 1 1dKhar 2 3Khar 4 aKhar 7 9Khar 7 20Sarb 20Narb 20 27Mani 4 cMani 9 36Avst 3 7Avst",
   "16Prti 2 8Prti 13Phli 5 8Phli 12Phlp 7 4Phlp c 7Phlp 50 49Orkh 37 33Hung d 33Hung 7 6Hung",
   "28Rohg 8 aRohg 6 26Gara 3 1dGara 8 2Gara d0 1fArab 1 2aYezi 1 3Yezi 2 2Yezi 10 3Arab 37",
   "4Arab 28Sogo 8 2aSogd 16 1aOugr 26 1cChrs 14 17Elym 9 4eBrah 4 24Brah 9 1Brah 43Kthi a 1Kthi",
   "2 19Sora 7 aSora 6 35Cakm 1 12Cakm 8 27Mahj 9 60Shrd 1 14Sinh b 12Khoj 1 2fKhoj 3e 7Mult 1",
   "1Mult 1 4Mult 1 fMult 1 bMult 6 3bSind 5 aSind 6 4Gran 1 8Gran 2 2Gran 2 16Gran 1 7Gran 1",
   "2Gran 1 5Gran 1 1Zinh 9Gran 2 2Gran 2 3Gran 2 1Gran 6 1Gran 5 7Gran 2 7Gran 3 5Gran b aTutg",
   "1 1Tutg 2 1Tutg 1 26Tutg 1 aTutg 1 1Tutg 2 1Tutg 1 4Tutg 1 aTutg 1 2Tutg 8 2Tutg 1d 5cNewa 1",
   "5Newa 1e 48Tirh 8 aTirh a6 36Sidd 2 26Sidd 22 45Modi b aModi 6 dMong 13 3aTakr 6 aTakr 6",
   "14Mymr 1c 1bAhom 2 fAhom 4 17Ahom b9 3cDogr 64 53Wara c 1Wara 7Diak 2 1Diak 2 8Diak 1 2Diak",
   "1 1eDiak 1 2Diak 2 cDiak 9 aDiak 46 8Nand 2 2eNand 2 bNand 1b 48Zanb 8 53Soyo d 10Cans",
   "39Pauc 7 aDeva b6 22Sunu e aSunu 6 9Bhks 1 2dBhks 1 eBhks a 1dBhks 3 20Marc 2 16Marc 1 eMarc",
   "49 7Gonm 1 2Gonm 1 2cGonm 3 1Gonm 1 2Gonm 1 9Gonm 8 aGonm 6 6Gong 1 2Gong 1 25Gong 1 2Gong 1",
   "6Gong 7 aGong 136 19Maka 7 11Kawi 1 29Kawi 3 1dKawi 55 1Lisu f 32Taml d 1Taml 39aXsux 66",
   "6fXsux 1 5Xsux b c4Xsux a4c 63Cpmn d 456Egyp a f9bEgyp 5 247Hluw 1ab9 3aGukh 6c6 239Bamu 7",
   "1fMroo 1 aMroo 4 2Mroo 4fTnsa 1 aTnsa 6 1eBass 2 6Bass a 46Hmng a aHmng 1 7Hmng 1 15Hmng 5",
   "13Hmng 1b0 3aKrai c6 5bMedf 65 4bPlrd 4 39Plrd 7 11Plrd 40 1Tang 1Nshu 2Hani 1Kits b 2Hani e",
   "17f8Tang 8 300Tang 1d6Kits 29 1Kits 9Tang 22e7 4Kana 1 7Kana 1 2Kana 1 1Kana 11fHira 3Kana f",
   "1Hira 1d 3Hira 2 1Kana e 4Kana 8 18cNshu 904 6bDupl 5 dDupl 3 9Dupl 7 aDupl 2 4Dupl 4Zyyy",
   "f5c faZyyy 6 1b4Zyyy 4c 2eZinh 2 17Zinh 9 74Zyyy 3c f6Zyyy a 27Zyyy 2 3eZyyy 3Zinh 11Zyyy",
   "8Zinh 2Zyyy 7Zinh 1eZyyy 4Zinh 3dZyyy 15 46Grek 7a 14Zyyy c 14Zyyy c 57Zyyy 9 19Zyyy 87",
   "55Zyyy 1 47Zyyy 1 2Zyyy 2 1Zyyy 2 2Zyyy 2 4Zyyy 1 cZyyy 1 1Zyyy 1 7Zyyy 1 41Zyyy 1 4Zyyy 2",
   "8Zyyy 1 7Zyyy 1 1cZyyy 1 4Zyyy 1 5Zyyy 1 1Zyyy 3 7Zyyy 1 154Zyyy 2 124Zyyy 2 32Zyyy 28cSgnw",
   "f 5Sgnw 1 fSgnw 450 1fLatn 6 6Latn d5 7Glag 1 11Glag 2 7Glag 1 2Glag 1 5Glag 5 3eCyrl 21",
   "1Cyrl 70 2dHmnp 3 eHmnp 2 aHmnp 4 2Hmnp 140 1fToto 11 3aWcho 5 1Wcho 1d0 2aNagm d6 2bOnao 4",
   "1Onao 1e0 7Ethi 1 4Ethi 1 2Ethi 1 fEthi 1 c5Mend 2 10Mend 29 4cAdlm 4 aAdlm 4 2Adlm 311",
   "44Zyyy 4c 3dZyyy c2 4Arab 1 1bArab 1 2Arab 1 1Arab 2 1Arab 1 aArab 1 4Arab 1 1Arab 1 1Arab 6",
   "1Arab 4 1Arab 1 1Arab 1 1Arab 1 3Arab 1 2Arab 1 1Arab 2 1Arab 1 1Arab 1 1Arab 1 1Arab 1",
   "1Arab 1 2Arab 1 1Arab 2 4Arab 1 7Arab 1 4Arab 1 4Arab 1 1Arab 1 aArab 1 11Arab 5 3Arab 1",
   "5Arab 1 11Arab 34 2Arab 10e 2cZyyy 4 64Zyyy c fZyyy 2 fZyyy 1 fZyyy 1 25Zyyy a aeZyyy 38",
   "1aZyyy 1Hira 2Zyyy d 2cZyyy 4 9Zyyy 7 2Zyyy e 6Zyyy 9a 3d8Zyyy 4 11Zyyy 3 dZyyy 3 77Zyyy 4",
   "5fZyyy 6 cZyyy 4 1Zyyy f cZyyy 4 38Zyyy 8 aZyyy 6 28Zyyy 8 1eZyyy 2 cZyyy 4 2Zyyy 3e 154Zyyy",
   "c eZyyy 2 dZyyy 3 aZyyy 5 38Zyyy 7 fZyyy 2 bZyyy 6 9Zyyy 7 93Zyyy 1 66Zyyy 406 a6e0Hani 20",
   "103aHani 6 deHani 2 1682Hani e 1d31Hani f 26eHani 9a2 21eHani 5e2 134bHani 5 1060Hani adc51",
   "1Zyyy 1e 60Zyyy 80 f0Zinh 2fe10"]

/-- The scripts that a character is used in, where these are not just its own script. -/
def extensionRuns : Runs (List Text) := Runs.ofLines
  (fun codes => (fields (· == ',') codes).filter (!·.isEmpty))
  ["b7 1Avst,Cari,Copt,Dupl,Elba,Geor,Glag,Gong,Goth,Grek,Hani,Latn,Lydi,Mahj,Perm,Shaw 204",
   "1Beng,Cyrl,Deva,Latn,Lisu,Thai,Toto a 1Bopo,Latn 1 3Bopo,Latn 1 1Latn,Lisu 9 1Latn,Thai 1",
   "1Bopo,Latn 26 1Cher,Copt,Cyrl,Grek,Latn,Perm,Sunu,Tale",
   "1Cher,Cyrl,Grek,Latn,Osge,Sunu,Tale,Todr 1Cher,Cyrl,Latn,Tfng 1Glag,Latn,Sunu,Syrc,Thai",
   "1Aghb,Cher,Copt,Cyrl,Goth,Grek,Latn,Osge,Syrc,Tfng,Todr 1Copt,Elba,Glag,Goth,Kana,Latn",
   "1Cyrl,Grek,Latn,Perm 1Copt,Dupl,Hebr,Latn,Perm,Syrc,Tale,Tfng,Todr",
   "1Armn,Cyrl,Dupl,Goth,Grek,Hebr,Latn,Perm,Syrc,Tale 1Latn,Tfng 1Dupl,Latn,Syrc",
   "1Cher,Cyrl,Latn,Osge 1Cher,Latn,Tale 1Latn,Sunu 1Ethi,Latn 1 1Latn,Sunu 1Cyrl,Latn,Todr 1",
   "1Grek,Latn,Perm,Todr c 1Latn,Syrc 2 1Cher,Dupl,Kana,Latn,Syrc 1Cher,Dupl,Latn,Syrc",
   "1Latn,Syrc 7 1Latn,Sunu,Syrc 1Latn,Syrc 1 1Cher,Latn,Syrc 1Aghb,Cher,Goth,Latn,Sunu,Thai 10",
   "1Grek 2 1Grek 12 1Latn,Osge 5 1Aghb,Latn,Todr 4 dLatn 4 2Copt,Grek 10d 1Cyrl,Perm 1Cyrl,Glag",
   "2Cyrl,Latn 1Cyrl,Glag 101 1Armn,Geor,Glag 82 1Arab,Gara,Nkoo,Rohg,Syrc,Thaa,Yezi e",
   "1Arab,Gara,Nkoo,Rohg,Syrc,Thaa,Yezi 1Arab,Syrc,Thaa 2",
   "1Adlm,Arab,Gara,Nkoo,Rohg,Syrc,Thaa,Yezi 20 1Adlm,Arab,Mand,Mani,Ougr,Phlp,Rohg,Sogd,Syrc a",
   "bArab,Syrc a aArab,Thaa,Yezi 6 1Arab,Syrc 63 1Arab,Rohg 27c",
   "1Beng,Deva,Gran,Gujr,Guru,Knda,Latn,Mlym,Orya,Shrd,Taml,Telu,Tirh",
   "1Beng,Deva,Gran,Gujr,Guru,Knda,Latn,Mlym,Orya,Taml,Telu,Tirh 11",
   "1Beng,Deva,Dogr,Gong,Gonm,Gran,Gujr,Guru,Knda,Mahj,Mlym,Nand,Onao,Orya,Sind,Sinh,Sylo,Takr,Taml,Telu,Tirh",
   "1Beng,Deva,Dogr,Gong,Gonm,Gran,Gujr,Gukh,Guru,Knda,Limb,Mahj,Mlym,Nand,Onao,Orya,Sind,Sinh,Sylo,Takr,Taml,Telu,Tirh",
   "aDeva,Dogr,Kthi,Mahj 76 aBeng,Cakm,Sylo 76 aGuru,Mult 76 aGujr,Khoj f6 eGran,Taml f2",
   "aKnda,Nand,Tutg 350 aCakm,Mymr,Tale b1 1Geor,Glag,Latn 5ef 3Runr 47 2Buhd,Hano,Tagb,Tglg cb",
   "2Mong,Phag 1 1Mong,Phag 4ca 1Beng,Deva,Gran,Knda 1Deva 1Beng,Deva,Gran,Knda 1Deva,Gran,Knda",
   "1Deva 2Beng,Deva 1Deva,Shrd 1Beng,Deva 1Deva,Shrd 1Deva,Knda,Mlym,Orya,Taml,Telu 1Deva",
   "2Deva,Shrd 2Deva 1Deva,Shrd 1Beng,Deva 7Deva 1Deva,Nand 1Beng,Deva 2Deva 1Beng,Deva 4Deva",
   "1Beng,Deva,Gran,Knda,Mlym,Nand,Orya,Sinh,Telu,Tirh,Tutg 1Deva,Gran 1Deva,Gran,Knda,Tutg",
   "2Beng,Deva 1Beng 2Deva,Gran 1Nand c5 2Grek 36 1Cyrl,Latn,Syrc 1 1Syrc 234 1Latn,Mong,Phag 1f",
   "1Adlm,Arab a 1Cari,Geor,Glag,Hung,Lyci,Orkh 2 1Cari,Grek,Hung,Mero 92 1Deva,Gran,Latn d26",
   "1Copt,Latn 18 1Avst,Orkh 1Avst,Cari,Geor,Hung,Kthi,Lydi,Samr a 1Dupl 4 1Adlm,Arab,Hung 1",
   "1Cyrl,Glag 1ac 10Hani,Tang 1 1Bopo,Hang,Hani,Hira,Kana,Mong,Yiii",
   "1Bopo,Hang,Hani,Hira,Kana,Mong,Phag,Yiii 1Bopo,Hang,Hani,Hira,Kana 2 1Hani 1",
   "2Bopo,Hang,Hani,Hira,Kana,Mong,Tibt,Yiii 2Bopo,Hang,Hani,Hira,Kana,Lisu,Mong,Tibt,Yiii",
   "6Bopo,Hang,Hani,Hira,Kana,Yiii 1 1Bopo,Hang,Hani,Hira,Kana 8Bopo,Hang,Hani,Hira,Kana,Yiii",
   "4Bopo,Hang,Hani,Hira,Kana a 4Bopo,Hani 2 1Bopo,Hang,Hani,Hira,Kana 5Hira,Kana 1",
   "1Bopo,Hang,Hani,Hira,Kana 4 2Hani,Hira,Kana 2Hani 59 4Hira,Kana 3 1Hira,Kana 5a",
   "1Bopo,Hang,Hani,Hira,Kana,Yiii 1Hira,Kana 93 10Hani 20 26Hani 9 1Hani,Tang 30 28Hani 38",
   "31Hani f cHani 33 1Hani 58 19Hani a 5Hani 60 1fHani 7270 1Cyrl,Glag 90 8Hani,Latn 128",
   "3Deva,Dogr,Gujr,Guru,Khoj,Knda,Kthi,Mahj,Mlym,Modi,Nand,Shrd,Sind,Takr,Tirh,Tutg",
   "3Deva,Dogr,Gujr,Guru,Khoj,Knda,Kthi,Mahj,Modi,Nand,Shrd,Sind,Takr,Tirh,Tutg",
   "2Deva,Dogr,Gujr,Guru,Khoj,Kthi,Mahj,Modi,Sind,Takr,Tirh",
   "1Deva,Dogr,Gujr,Guru,Khoj,Kthi,Mahj,Modi,Shrd,Sind,Takr,Tirh",
   "1Deva,Dogr,Gujr,Guru,Khoj,Kthi,Mahj,Modi,Sind,Takr,Tirh b7 1Beng,Deva,Tutg 1 1Deva,Taml 3a",
   "1Kali,Latn,Mymr a0 1Bugi,Java 536e 2Arab,Nkoo b2 1Arab,Thaa a 1Arab,Thaa 47",
   "2Bopo,Hang,Hani,Hira,Kana 11a 5Bopo,Hang,Hani,Hira,Kana,Yiii a 1Hira,Kana 2d 2Hira,Kana 160",
   "2Cpmn,Cprt,Linb 1Cprt,Linb 4 2dCprt,Lina,Linb 3 9Cprt,Linb 1a0 1cArab,Copt 7f6 1Mani,Ougr",
   "80e 1Gran,Taml 1 1Gran,Taml 37 2Gran,Taml c93 2Gran,Taml 1 1Gran,Taml 9ccc 4Dupl 16bc 12Hani",
   "1ede 2Hani f0dae"]

def scriptSet (code : Text) : CodeSet := CodeSet.ofRuns scriptRuns (· == code)

def extendedScriptSet (code : Text) : CodeSet :=
  ((scriptSet code).diff (CodeSet.ofRuns extensionRuns (!·.isEmpty))).union
    (CodeSet.ofRuns extensionRuns (·.contains code))

end BraceTemplate.Pattern.Class
