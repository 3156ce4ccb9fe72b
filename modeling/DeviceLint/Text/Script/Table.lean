/-
The scripts of Unicode 15, one for each code point, and their names.  A few characters
are used with other scripts than their own.

Runs are written as in the table of general categories, except that a script has a code
of four letters.
-/

namespace DeviceLint.Text.Script

/-- Runs of one script. -/
def table : String := String.join [
  "Zyyy40Latn19Zyyy5Latn19Zyyy2eLatnZyyyeLatnZyyy4Latn16ZyyyLatn1eZyyyLatn1c0Zyyy26Latn4Zyyy4Bo",
  "po1Zyyy13Zinh6fGrek3ZyyyGrek2Zzzz1Grek3ZyyyGrekZzzz3GrekZyyyGrekZyyyGrek2ZzzzGrekZzzzGrek13Z",
  "zzzGrek3eCoptdGrekfCyrl84Zinh1Cyrla8ZzzzArmn25Zzzz1Armn31Zzzz1Armn2ZzzzHebr36Zzzz7Hebr1aZzzz",
  "3Hebr5ZzzzaArab4ZyyyArab5ZyyyArabdZyyyArab2ZyyyArab1fZyyyArab9ZinhaArab19ZinhArab6bZyyyArab2",
  "1SyrcdZzzzSyrc3bZzzz1Syrc2Arab2fThaa31ZzzzdNkoo3aZzzz1Nkoo2Samr2dZzzz1SamreZzzzMand1bZzzz1Ma",
  "ndZzzzSyrcaZzzz4Arab1eZzzzArab1Zzzz5Arab49ZyyyArab1cDeva50Zinh3DevaeZyyy1Deva19Beng3ZzzzBeng",
  "7Zzzz1Beng1Zzzz1Beng15ZzzzBeng6ZzzzBengZzzz2Beng3Zzzz1Beng8Zzzz1Beng1Zzzz1Beng3Zzzz7BengZzzz",
  "3Beng1ZzzzBeng4Zzzz1Beng18Zzzz1Guru2ZzzzGuru5Zzzz3Guru1Zzzz1Guru15ZzzzGuru6ZzzzGuru1ZzzzGuru",
  "1ZzzzGuru1Zzzz1GuruZzzzGuru4Zzzz3Guru1Zzzz1Guru2Zzzz2GuruZzzz6Guru3ZzzzGuruZzzz6Guru10Zzzz9G",
  "ujr2ZzzzGujr8ZzzzGujr2ZzzzGujr15ZzzzGujr6ZzzzGujr1ZzzzGujr4Zzzz1Gujr9ZzzzGujr2ZzzzGujr2Zzzz1",
  "GujrZzzzeGujr3Zzzz1GujrbZzzz6Gujr6ZzzzOrya2ZzzzOrya7Zzzz1Orya1Zzzz1Orya15ZzzzOrya6ZzzzOrya1Z",
  "zzzOrya4Zzzz1Orya8Zzzz1Orya1Zzzz1Orya2Zzzz6Orya2Zzzz3Orya1ZzzzOrya4Zzzz1Orya11Zzzz9Taml1Zzzz",
  "Taml5Zzzz2Taml2ZzzzTaml3Zzzz2Taml1ZzzzTamlZzzzTaml1Zzzz2Taml1Zzzz2Taml2Zzzz2TamlbZzzz3Taml4Z",
  "zzz2Taml2ZzzzTaml3Zzzz1TamlZzzz5TamlZzzzdTaml14Zzzz4TelucZzzzTelu2ZzzzTelu16ZzzzTelufZzzz1Te",
  "lu8ZzzzTelu2ZzzzTelu3Zzzz6Telu1ZzzzTelu2Zzzz1TeluZzzz1Telu3Zzzz1Telu9Zzzz6Telu8KndacZzzzKnda",
  "2ZzzzKnda16ZzzzKnda9ZzzzKnda4Zzzz1Knda8ZzzzKnda2ZzzzKnda3Zzzz6Knda1Zzzz5Knda1ZzzzKnda3Zzzz1K",
  "nda9ZzzzKnda2ZzzzbMlymcZzzzMlym2ZzzzMlym32ZzzzMlym2ZzzzMlym5Zzzz3MlymfZzzz1Mlym19ZzzzSinh2Zz",
  "zzSinh11Zzzz2Sinh17ZzzzSinh8ZzzzSinhZzzz1Sinh6Zzzz2SinhZzzz3Sinh5ZzzzSinhZzzzSinh7Zzzz5Sinh9",
  "Zzzz1Sinh2ZzzzbThai39Zzzz3ZyyyThai1bZzzz24Laoo1ZzzzLaooZzzzLaoo4ZzzzLaoo17ZzzzLaooZzzzLaoo16",
  "Zzzz1Laoo4ZzzzLaooZzzzLaoo6ZzzzLaoo9Zzzz1Laoo3Zzzz1fTibt47ZzzzTibt23Zzzz3Tibt26ZzzzTibt23Zzz",
  "zTibteZzzzTibt6Zyyy3Tibt1Zzzz24Mymr9fGeor25ZzzzGeorZzzz4GeorZzzz1Geor2aZyyyGeor3HangffEthi48",
  "ZzzzEthi3Zzzz1Ethi6ZzzzEthiZzzzEthi3Zzzz1Ethi28ZzzzEthi3Zzzz1Ethi20ZzzzEthi3Zzzz1Ethi6ZzzzEt",
  "hiZzzzEthi3Zzzz1EthieZzzzEthi38ZzzzEthi3Zzzz1Ethi42Zzzz1Ethi1fZzzz2Ethi19Zzzz5Cher55Zzzz1Che",
  "r5Zzzz1Cans27fOgam1cZzzz2Runr4aZyyy2RunraZzzz6Tglg15Zzzz8TglgHano14Zyyy1Zzzz8Buhd13ZzzzbTagb",
  "cZzzzTagb2ZzzzTagb1ZzzzbKhmr5dZzzz1Khmr9Zzzz5Khmr9Zzzz5Mong1Zyyy1MongZyyyMong13Zzzz5Mong58Zz",
  "zz6Mong2aZzzz4Cans45Zzzz9Limb1eZzzzLimbbZzzz3LimbbZzzz3LimbZzzz2LimbbTale1dZzzz1Tale4ZzzzaTa",
  "lu2bZzzz3Talu19Zzzz5TaluaZzzz2Talu1Khmr1fBugi1bZzzz1Bugi1Lana3eZzzzLana1cZzzz1LanaaZzzz5Lana",
  "9Zzzz5LanadZzzz1Zinh1eZzzz30Bali4cZzzz2Bali2eZzzzSund3fBatk33Zzzz7Batk3Lepc37Zzzz2LepceZzzz2",
  "Lepc2Olck2fCyrl8Zzzz6Geor2aZzzz1Geor2Sund7Zzzz7Zinh2ZyyyZinhcZyyyZinh6Zyyy3ZinhZyyy5ZinhZyyy",
  "2Zinh1ZyyyZzzz4Latn25Grek4CyrlLatn30Grek4Latn3Grek4LatncCyrlLatn45GrekZinh3fLatnffGrek15Zzzz",
  "1Grek5Zzzz1Grek25Zzzz1Grek5Zzzz1Grek7ZzzzGrekZzzzGrekZzzzGrekZzzzGrek1eZzzz1Grek34ZzzzGrekeZ",
  "zzzGrekdZzzz1Grek5ZzzzGrek12Zzzz1Grek2ZzzzGrek8ZzzzZyyybZinh1Zyyy56ZzzzZyyyaLatnZzzz1ZyyyaLa",
  "tnZyyyeZzzzLatncZzzz2Zyyy20ZzzzeZinh20ZzzzeZyyy25GrekZyyy2Latn1Zyyy5LatnZyyy1aLatnZyyy10Latn",
  "28Zyyy2Zzzz3Zyyy296Zzzz18ZyyyaZzzz14Zyyy39fBraiffZyyy273Zzzz1Zyyy1fZzzzZyyy68Glag5fLatn1fCop",
  "t73Zzzz4Copt6Geor25ZzzzGeorZzzz4GeorZzzz1Tfng37Zzzz6Tfng1ZzzzdTfngEthi16Zzzz8Ethi6ZzzzEthi6Z",
  "zzzEthi6ZzzzEthi6ZzzzEthi6ZzzzEthi6ZzzzEthi6ZzzzEthi6ZzzzCyrl1fZyyy5dZzzz21Hani19ZzzzHani58Z",
  "zzzbHanid5Zzzz19ZyyybZzzz3Zyyy4HaniZyyyHaniZyyy18Hani8Zinh3Hang1Zyyy7Hani3Zyyy3ZzzzHira55Zzz",
  "z1Zinh1Zyyy1Hira2ZyyyKana59Zyyy1Kana2Zzzz4Bopo2aZzzzHang5dZzzzZyyyfBopo1fZyyy23ZzzzbKanafHan",
  "g1eZzzzZyyy3fHang1eZyyy50Kana2eZyyyKana57Zyyya7Hani19bfZyyy3fHani51ffYiii48cZzzz2Yiii36Zzzz8",
  "Lisu2fVaii12bZzzz13Cyrl5fBamu57Zzzz7Zyyy21Latn65Zyyy2Latn3fZzzz4Latn1ZzzzLatnZzzzLatn4Zzzz17",
  "LatndSylo2cZzzz2Zyyy9Zzzz5Phag37Zzzz7Saur45Zzzz7SaurbZzzz5Deva1fKali2dZyyyKaliRjng23ZzzzaRjn",
  "gHang1cZzzz2Java4dZzzzZyyyJava9Zzzz3Java1Mymr1eZzzzCham36Zzzz8ChamdZzzz1Cham9Zzzz1Cham3Mymr1",
  "fTavt42Zzzz17Tavt4Mtei16Zzzz9Ethi5Zzzz1Ethi5Zzzz1Ethi5Zzzz8Ethi6ZzzzEthi6ZzzzLatn2aZyyyLatn8",
  "GrekLatn3Zyyy1Zzzz3Cher4fMtei2dZzzz1Mtei9Zzzz5Hang2ba3ZzzzbHang16Zzzz3Hang30Zzzz2103Hani16dZ",
  "zzz1Hani69Zzzz25Latn6ZzzzbArmn4Zzzz4Hebr19ZzzzHebr4ZzzzHebrZzzzHebr1ZzzzHebr1ZzzzHebr9Arab72",
  "ZzzzfArab16aZyyy1Arab4fZzzz1Arab35Zzzz6ArabZzzz1fArabfZinhfZyyy9Zzzz5ZinhdCyrl1Zyyy22ZzzzZyy",
  "y12ZzzzZyyy3Zzzz3Arab4ZzzzArab86Zzzz1ZyyyZzzzZyyy1fLatn19Zyyy5Latn19ZyyyaKana9ZyyyKana2cZyyy",
  "1Hang1eZzzz2Hang5Zzzz1Hang5Zzzz1Hang5Zzzz1Hang2Zzzz2Zyyy6ZzzzZyyy6Zzzz9Zyyy4Zzzz1LinbbZzzzLi",
  "nb19ZzzzLinb12ZzzzLinb1ZzzzLinbeZzzz1LinbdZzzz21Linb7aZzzz4Zyyy2Zzzz3Zyyy2cZzzz2Zyyy8Grek4eZ",
  "zzzZyyycZzzz2GrekZzzz2eZyyy2cZinhZzzz81Lyci1cZzzz2Cari30ZzzzeZinhZyyy1aZzzz3Ital23Zzzz8Ital2",
  "Goth1aZzzz4Perm2aZzzz4Ugar1dZzzzUgarXpeo23Zzzz3XpeodZzzz29Dsrt4fShaw2fOsma1dZzzz1Osma9Zzzz5O",
  "sge23Zzzz3Osge23Zzzz3Elba27Zzzz7Aghb33ZzzzaAghbVithaZzzzVitheZzzzVith6ZzzzVith1ZzzzVithaZzzz",
  "VitheZzzzVith6ZzzzVith1Zzzz42Lina136Zzzz8Lina15Zzzz9Lina7Zzzz17Latn5ZzzzLatn29ZzzzLatn8Zzzz4",
  "4Cprt5Zzzz1CprtZzzzCprt2bZzzzCprt1Zzzz2CprtZzzz1CprtArmi15ZzzzArmi8Palm1fNbat1eZzzz7Nbat8Zzz",
  "z2fHatr12ZzzzHatr1Zzzz4Hatr4Phnx1bZzzz2PhnxLydi19Zzzz4LydiZzzz3fMero1fMerc17Zzzz3Merc13Zzzz1",
  "Merc2dKhar3ZzzzKhar1Zzzz4Khar7ZzzzKhar2ZzzzKhar1cZzzz1Khar2Zzzz3Khar9Zzzz6Khar8Zzzz6Sarb1fNa",
  "rb1fZzzz1fMani26Zzzz3ManibZzzz8Avst35Zzzz2Avst6Prti15Zzzz1Prti7Phli12Zzzz4Phli7Phlp11Zzzz6Ph",
  "lp3ZzzzbPhlp6Zzzz4fOrkh48Zzzz36Hung32ZzzzcHung32Zzzz6Hung5Rohg27Zzzz7Rohg9Zzzz125Arab1eZzzzY",
  "ezi29ZzzzYezi2Zzzz1Yezi1Zzzz4aArab2Sogo27Zzzz7Sogd29Zzzz15Ougr19Zzzz25Chrs1bZzzz13Elym16Zzzz",
  "8Brah4dZzzz3Brah23Zzzz8BrahKthi42Zzzz9KthiZzzz1Sora18Zzzz6Sora9Zzzz5Cakm34ZzzzCakm11Zzzz7Mah",
  "j26Zzzz8Shrd5fZzzzSinh13ZzzzaKhoj11ZzzzKhoj2eZzzz3dMult6ZzzzMultZzzzMult3ZzzzMulteZzzzMultaZ",
  "zzz5Sind3aZzzz4Sind9Zzzz5Gran3ZzzzGran7Zzzz1Gran1Zzzz1Gran15ZzzzGran6ZzzzGran1ZzzzGran4ZzzzZ",
  "inhGran8Zzzz1Gran1Zzzz1Gran2Zzzz1GranZzzz5GranZzzz4Gran6Zzzz1Gran6Zzzz2Gran4Zzzz8aNewa5bZzzz",
  "Newa4Zzzz1dTirh47Zzzz7Tirh9Zzzza5Sidd35Zzzz1Sidd25Zzzz21Modi44ZzzzaModi9Zzzz5MongcZzzz12Takr",
  "39Zzzz5Takr9Zzzz35Ahom1aZzzz1AhomeZzzz3Ahom16Zzzzb8Dogr3bZzzz63Wara52ZzzzbWaraDiak6Zzzz1Diak",
  "Zzzz1Diak7ZzzzDiak1ZzzzDiak1dZzzzDiak1Zzzz1DiakbZzzz8Diak9Zzzz45Nand7Zzzz1Nand2dZzzz1NandaZz",
  "zz1aZanb47Zzzz7Soyo52ZzzzcCansfPauc38Zzzz6Deva9Zzzzf5Bhks8ZzzzBhks2cZzzzBhksdZzzz9Bhks1cZzzz",
  "2Marc1fZzzz1Marc15ZzzzMarcdZzzz48Gonm6ZzzzGonm1ZzzzGonm2bZzzz2GonmZzzzGonm1ZzzzGonm8Zzzz7Gon",
  "m9Zzzz5Gong5ZzzzGong1ZzzzGong24ZzzzGong1ZzzzGong5Zzzz6Gong9Zzzz135Maka18Zzzz6Kawi10ZzzzKawi2",
  "8Zzzz2Kawi1bZzzz55LisuZzzzeTaml31ZzzzcTamlXsux399Zzzz65Xsux6eZzzzXsux4ZzzzaXsuxc3Zzzza4bCpmn",
  "62ZzzzcEgyp455Zzzzfa9Hluw246Zzzz21b8Bamu238Zzzz6Mroo1eZzzzMroo9Zzzz3Mroo1Tnsa4eZzzzTnsa9Zzzz",
  "5Bass1dZzzz1Bass5Zzzz9Hmng45Zzzz9Hmng9ZzzzHmng6ZzzzHmng14Zzzz4Hmng12Zzzz2afMedf5aZzzz64Plrd4",
  "aZzzz3Plrd38Zzzz6Plrd10Zzzz3fTangNshuHani1KitsZzzzaHani1ZzzzdTang17f7Zzzz7Tang2ffKits1d5Zzzz",
  "29Tang8Zzzz22e6Kana3ZzzzKana6ZzzzKana1ZzzzKanaHira11eKana2ZzzzeHiraZzzz1cHira2Zzzz1KanaZzzzd",
  "Kana3Zzzz7Nshu18bZzzz903Dupl6aZzzz4DuplcZzzz2Dupl8Zzzz6Dupl9Zzzz1Dupl3Zyyy3Zzzz125bZinh2dZzz",
  "z1Zinh16Zzzz8Zyyy73Zzzz3bZyyyf5Zzzz9Zyyy26Zzzz1Zyyy3dZinh2Zyyy10Zinh7Zyyy1Zinh6Zyyy1dZinh3Zy",
  "yy3cZzzz14Grek45Zzzz79Zyyy13ZzzzbZyyy13ZzzzbZyyy56Zzzz8Zyyy18Zzzz86Zyyy54ZzzzZyyy46ZzzzZyyy1",
  "Zzzz1ZyyyZzzz1Zyyy1Zzzz1Zyyy3ZzzzZyyybZzzzZyyyZzzzZyyy6ZzzzZyyy40ZzzzZyyy3Zzzz1Zyyy7ZzzzZyyy",
  "6ZzzzZyyy1bZzzzZyyy3ZzzzZyyy4ZzzzZyyyZzzz2Zyyy6ZzzzZyyy153Zzzz1Zyyy123Zzzz1Zyyy31Sgnw28bZzzz",
  "eSgnw4ZzzzSgnweZzzz44fLatn1eZzzz5Latn5Zzzzd4Glag6ZzzzGlag10Zzzz1Glag6ZzzzGlag1ZzzzGlag4Zzzz4",
  "Cyrl3dZzzz20CyrlZzzz6fHmnp2cZzzz2HmnpdZzzz1Hmnp9Zzzz3Hmnp1Zzzz13fToto1eZzzz10Wcho39Zzzz4Wcho",
  "Zzzz1cfNagm29Zzzz2e5Ethi6ZzzzEthi3ZzzzEthi1ZzzzEthieZzzzMendc4Zzzz1MendfZzzz28Adlm4bZzzz3Adl",
  "m9Zzzz3Adlm1Zzzz310Zyyy43Zzzz4bZyyy3cZzzzc1Arab3ZzzzArab1aZzzzArab1ZzzzArabZzzz1ArabZzzzArab",
  "9ZzzzArab3ZzzzArabZzzzArabZzzz5ArabZzzz3ArabZzzzArabZzzzArabZzzzArab2ZzzzArab1ZzzzArabZzzz1A",
  "rabZzzzArabZzzzArabZzzzArabZzzzArabZzzzArab1ZzzzArabZzzz1Arab3ZzzzArab6ZzzzArab3ZzzzArab3Zzz",
  "zArabZzzzArab9ZzzzArab10Zzzz4Arab2ZzzzArab4ZzzzArab10Zzzz33Arab1Zzzz10dZyyy2bZzzz3Zyyy63Zzzz",
  "bZyyyeZzzz1ZyyyeZzzzZyyyeZzzzZyyy24Zzzz9ZyyyadZzzz37Zyyy19HiraZyyy1ZzzzcZyyy2bZzzz3Zyyy8Zzzz",
  "6Zyyy1ZzzzdZyyy5Zzzz99Zyyy3d7Zzzz3Zyyy10Zzzz2ZyyycZzzz2Zyyy76Zzzz3Zyyy5eZzzz5ZyyybZzzz3ZyyyZ",
  "zzzeZyyybZzzz3Zyyy37Zzzz7Zyyy9Zzzz5Zyyy27Zzzz7Zyyy1dZzzz1Zyyy1Zzzz4dZyyy153ZzzzbZyyydZzzz1Zy",
  "yycZzzz2Zyyy8Zzzz6Zyyy2dZzzzZyyy6Zzzz7ZyyydZzzz3Zyyy8Zzzz6Zyyy8Zzzz6Zyyy92ZzzzZyyy36Zzzz24Zy",
  "yy9Zzzz405Hania6dfZzzz1fHani1039Zzzz5HaniddZzzz1Hani1681ZzzzdHani1d30Zzzzc1eHani21dZzzz5e1Ha",
  "ni134aZzzz4Hani105fZzzzadc50ZyyyZzzz1dZyyy5fZzzz7fZinhefZzzz2fe0f"]

/-- Ranges that are used with a script they do not belong to, written as in the table of binary
properties. -/
def borrowed : List (String × String) := [
  ("Adlm", "61f,20"),
  ("Arab", "60c,e,3,20,a:a,1a,f6cd:1,5a0:1b"),
  ("Beng", "951:1,11:1,136a,1,2:1,1,8,8,2,4,2:2,8bf9"),
  ("Bopo", "3001:2,4:9,1:c,a:3,2,6,c3,cd49:1,11a:4"),
  ("Bugi", "a9cf"),
  ("Buhd", "1735:1"),
  ("Cakm", "9e6:9,650:9"),
  ("Copt", "102e0:1b"),
  ("Cpmn", "10100:1"),
  ("Cprt", "10100:2,4:2c,3:8"),
  ("Cyrl", "485:1,1971,104a"),
  ("Deva", "951:1,11:1,136a:26,1:1,3f6,873f:9"),
  ("Dogr", "964:b,9ec0:9"),
  ("Dupl", "1bca0:3"),
  ("Geor", "10fb"),
  ("Glag", "484,2,29bb,782b"),
  ("Gong", "964:1"),
  ("Gonm", "964:1"),
  ("Gran", "951:1,11:1,280:d,10dc,1:1,1e:2,3:1,3f6,f24a,c94:1,1"),
  ("Grek", "342,2,1a7a:1"),
  ("Gujr", "951:1,11:1,9eca:9"),
  ("Guru", "951:1,11:1,9eca:9"),
  ("Hang", "3001:2,4:9,1:c,10,6,c3,cd49:1,11a:4"),
  ("Hani", String.join [
    "3001:2,2,1:9,1:c,a:3,2,6,4:3,bb,94:f,20:23,3c:27,38:30,f:b,33,58:18,a:4,60:1e,7301:7,573d:1,1",
    "1a:4,d3fa:11,1ede:1"]),
  ("Hano", "1735:1"),
  ("Hira", "3001:2,4:9,1:c,10:5,1,4:1,5b:3,3,5a:1,cd48:1,11a:4,a,2d:1"),
  ("Java", "a9cf"),
  ("Kali", "a92e"),
  ("Kana", "3001:2,4:9,1:c,10:5,1,4:1,5b:3,3,5a:1,cd48:1,11a:4,a,2d:1"),
  ("Khoj", "ae6:9,9d40:9"),
  ("Knda", "951:1,11:1,136a,1,7,17,1,8b3b:5"),
  ("Kthi", "966:9,9ec0:9"),
  ("Latn", "363:c,115:1,4ca:1,7a8,f33,c0,860f:7,226"),
  ("Limb", "965"),
  ("Lina", "10107:2c"),
  ("Linb", "10100:2,4:2c,3:8"),
  ("Mahj", "964:b,9ec0:9"),
  ("Mand", "640"),
  ("Mani", "640"),
  ("Mlym", "951:1,11:1,1374,8b55:2"),
  ("Modi", "a830:9"),
  ("Mong", "1802:1,1,829"),
  ("Mult", "a66:9"),
  ("Mymr", "a92e"),
  ("Nand", "964:1,380:9,ff9,8,7,8b35:5"),
  ("Nkoo", "60c,e,3,f71e:1"),
  ("Orya", "951:1,11:1,1374,17"),
  ("Ougr", "640,104b1"),
  ("Perm", "483"),
  ("Phag", "1802:1,1"),
  ("Phlp", "640"),
  ("Rohg", "60c,e,3,20,93"),
  ("Shrd", "951,1385,1,2:1,2"),
  ("Sind", "964:1,9eca:9"),
  ("Sinh", "964:1"),
  ("Sogd", "640"),
  ("Sylo", "964:1,80:9"),
  ("Syrc", "60c,e:1,2,20,a:a,1a,1787,1"),
  ("Tagb", "1735:1"),
  ("Takr", "964:1,9eca:9"),
  ("Tale", "1040:9"),
  ("Taml", "951:1,11:1,1374,8c18,6a0d,1,37:1"),
  ("Telu", "951:1,11:1,1374,17"),
  ("Tglg", "1735:1"),
  ("Thaa", "60c,e:1,2,40:9,f788,a"),
  ("Tirh", "951:1,11:1,138c,8b3d:9"),
  ("Yezi", "60c,e,3,40:9"),
  ("Yiii", "3001:1,5:9,2:7,df,ce65:4")]

/-- Ranges that are used with other scripts only than the one they belong to. -/
def lent : List (String × String) := [
  ("Zinh", String.join [
    "342,2,1d:c,115:1,1c4:a,1a,2e0:1,137d:2,1:c,1:6,4,6,3:1,c6:1,36,1,2f5,f39:3,6b:1,d245,105a"]),
  ("Zyyy", String.join [
    "60c,e,3,20,323:1,795,639:1,cb:1,1,4cd,d,7:3,1:5,1:2,2,334,e13,1bd:2,2,1:9,1:c,10:5,1,4:3,5b:1",
    ",3,5a:1,93:f,20:23,3c:27,38:30,f:b,33,58:18,a:4,60:1e,7301:7,128:9,f4,a0,536e:1,105:1,11a:4,a",
    ",2d:1,160:2,4:2c,3:8,1a1:1a,b9a4:3,16bc:11,1ede:1"])]

/-- Names of scripts in lower case without separators, each with its code. -/
def names : String := String.join [
  "adlam=Adlm adlm=Adlm aghb=Aghb caucasianalbanian=Aghb ahom=Ahom arab=Arab arabic=Arab armi=Ar",
  "mi imperialaramaic=Armi armenian=Armn armn=Armn avestan=Avst avst=Avst bali=Bali balinese=Bal",
  "i bamu=Bamu bamum=Bamu bass=Bass bassavah=Bass batak=Batk batk=Batk beng=Beng bengali=Beng bh",
  "aiksuki=Bhks bhks=Bhks bopo=Bopo bopomofo=Bopo brah=Brah brahmi=Brah brai=Brai braille=Brai b",
  "ugi=Bugi buginese=Bugi buhd=Buhd buhid=Buhd cakm=Cakm chakma=Cakm canadianaboriginal=Cans can",
  "s=Cans cari=Cari carian=Cari cham=Cham cher=Cher cherokee=Cher chorasmian=Chrs chrs=Chrs copt",
  "=Copt coptic=Copt qaac=Copt cpmn=Cpmn cyprominoan=Cpmn cprt=Cprt cypriot=Cprt cyrillic=Cyrl c",
  "yrl=Cyrl deva=Deva devanagari=Deva diak=Diak divesakuru=Diak dogr=Dogr dogra=Dogr deseret=Dsr",
  "t dsrt=Dsrt dupl=Dupl duployan=Dupl egyp=Egyp egyptianhieroglyphs=Egyp elba=Elba elbasan=Elba",
  " elym=Elym elymaic=Elym ethi=Ethi ethiopic=Ethi geor=Geor georgian=Geor glag=Glag glagolitic=",
  "Glag gong=Gong gunjalagondi=Gong gonm=Gonm masaramgondi=Gonm goth=Goth gothic=Goth gran=Gran ",
  "grantha=Gran greek=Grek grek=Grek gujarati=Gujr gujr=Gujr gurmukhi=Guru guru=Guru hang=Hang h",
  "angul=Hang han=Hani hani=Hani hano=Hano hanunoo=Hano hatr=Hatr hatran=Hatr hebr=Hebr hebrew=H",
  "ebr hira=Hira hiragana=Hira anatolianhieroglyphs=Hluw hluw=Hluw hmng=Hmng pahawhhmong=Hmng hm",
  "np=Hmnp nyiakengpuachuehmong=Hmnp hung=Hung oldhungarian=Hung ital=Ital olditalic=Ital java=J",
  "ava javanese=Java kali=Kali kayahli=Kali kana=Kana katakana=Kana kawi=Kawi khar=Khar kharosht",
  "hi=Khar khmer=Khmr khmr=Khmr khoj=Khoj khojki=Khoj khitansmallscript=Kits kits=Kits kannada=K",
  "nda knda=Knda kaithi=Kthi kthi=Kthi lana=Lana taitham=Lana lao=Laoo laoo=Laoo latin=Latn latn",
  "=Latn lepc=Lepc lepcha=Lepc limb=Limb limbu=Limb lina=Lina lineara=Lina linb=Linb linearb=Lin",
  "b lisu=Lisu lyci=Lyci lycian=Lyci lydi=Lydi lydian=Lydi mahajani=Mahj mahj=Mahj maka=Maka mak",
  "asar=Maka mand=Mand mandaic=Mand mani=Mani manichaean=Mani marc=Marc marchen=Marc medefaidrin",
  "=Medf medf=Medf mend=Mend mendekikakui=Mend merc=Merc meroiticcursive=Merc mero=Mero meroitic",
  "hieroglyphs=Mero malayalam=Mlym mlym=Mlym modi=Modi mong=Mong mongolian=Mong mro=Mroo mroo=Mr",
  "oo meeteimayek=Mtei mtei=Mtei mult=Mult multani=Mult myanmar=Mymr mymr=Mymr nagm=Nagm nagmund",
  "ari=Nagm nand=Nand nandinagari=Nand narb=Narb oldnortharabian=Narb nabataean=Nbat nbat=Nbat n",
  "ewa=Newa nko=Nkoo nkoo=Nkoo nshu=Nshu nushu=Nshu ogam=Ogam ogham=Ogam olchiki=Olck olck=Olck ",
  "oldturkic=Orkh orkh=Orkh oriya=Orya orya=Orya osage=Osge osge=Osge osma=Osma osmanya=Osma old",
  "uyghur=Ougr ougr=Ougr palm=Palm palmyrene=Palm pauc=Pauc paucinhau=Pauc oldpermic=Perm perm=P",
  "erm phag=Phag phagspa=Phag inscriptionalpahlavi=Phli phli=Phli phlp=Phlp psalterpahlavi=Phlp ",
  "phnx=Phnx phoenician=Phnx miao=Plrd plrd=Plrd inscriptionalparthian=Prti prti=Prti rejang=Rjn",
  "g rjng=Rjng hanifirohingya=Rohg rohg=Rohg runic=Runr runr=Runr samaritan=Samr samr=Samr oldso",
  "utharabian=Sarb sarb=Sarb saur=Saur saurashtra=Saur sgnw=Sgnw signwriting=Sgnw shavian=Shaw s",
  "haw=Shaw sharada=Shrd shrd=Shrd sidd=Sidd siddham=Sidd khudawadi=Sind sind=Sind sinh=Sinh sin",
  "hala=Sinh sogd=Sogd sogdian=Sogd oldsogdian=Sogo sogo=Sogo sora=Sora sorasompeng=Sora soyo=So",
  "yo soyombo=Soyo sund=Sund sundanese=Sund sylo=Sylo sylotinagri=Sylo syrc=Syrc syriac=Syrc tag",
  "b=Tagb tagbanwa=Tagb takr=Takr takri=Takr taile=Tale tale=Tale newtailue=Talu talu=Talu tamil",
  "=Taml taml=Taml tang=Tang tangut=Tang taiviet=Tavt tavt=Tavt telu=Telu telugu=Telu tfng=Tfng ",
  "tifinagh=Tfng tagalog=Tglg tglg=Tglg thaa=Thaa thaana=Thaa thai=Thai tibetan=Tibt tibt=Tibt t",
  "irh=Tirh tirhuta=Tirh tangsa=Tnsa tnsa=Tnsa toto=Toto ugar=Ugar ugaritic=Ugar vai=Vaii vaii=V",
  "aii vith=Vith vithkuqi=Vith wara=Wara warangciti=Wara wancho=Wcho wcho=Wcho oldpersian=Xpeo x",
  "peo=Xpeo cuneiform=Xsux xsux=Xsux yezi=Yezi yezidi=Yezi yi=Yiii yiii=Yiii zanabazarsquare=Zan",
  "b zanb=Zanb inherited=Zinh qaai=Zinh zinh=Zinh common=Zyyy zyyy=Zyyy"]

end DeviceLint.Text.Script
