import SecureSockets.Unicode.Table

namespace SecureSockets.Unicode.Property

/-!
The binary properties of the Unicode character database, version 17.0. Each row
starts inside the property; its numbers are the lengths of the stretches inside
and outside in turn.
-/

def asciiHexDigit : List Row := [
  ⟨0x0030, "khgBag"⟩]

def alphabetic : List Row := [
  ⟨0x0041, "BagBaBvbkbebfxbBfbRqemofhbbbDibBdsbccebbgbbdbbbubDfbFjiGkbBmcbgBpBnobbbcbcbbiBb"⟩,
  ⟨0x05EF, "eBdlfCebhoDybieiedkdcbqBwnDxyBhjcebfycttzhlfybhhbiBqkmdhgCybqbdepntbicccwbhbbde"⟩,
  ⟨0x09BD, "iccccbbibecbfmckbedbgeccwbhbcbcbcefecccebhebbrgldbjbdbwbhbcbfdjbdbcdbpeveedbicc"⟩,
  ⟨0x0B13, "wbhbcbfdiccccjcecbfnbqcbgddbedcbbbcdcdddmefddbddbgbBonbdbxbqdibdbdicbdbcceBcebi"⟩,
  ⟨0x0C8E, "dbxbkbfdibdbdicfdbendmnbdbBpcibdbdbbfehfwgbdbsdybjbbchigbbbiscnCgfhgbBzcbbbfbybb"⟩,
  ⟨0x0EA7, "tbdcfbbgboeBgbClibBketeqbBkCpCdbbcfqCmkecBmbbfbcBrbMvbechbbbecBpbecBhbechbbbecp"⟩,
  ⟨0x12D8, "CfbecCpBlqqDicgdXwcrbBafCxdlhulvmumnbdbcmCactobebCpDlhBrfCskBfbmejxBecflBseBa"⟩,
  ⟨0x1A00, "BceClcuBybxcldBxCabpbiBzBqcekBsbloCdwdkBkclfBrcdBpebgbcdbfHktBilKscgcBmcgcibbbb"⟩,
  ⟨0x1F5D, "bbBfcCbbhbbddbhdecgenfdbhEmbnbqnDxbebckbbdfgbbbbbbeblceffebrBpBFhCaCRuIvgedcmBm"⟩,
  ⟨0x2D27, "bfbcCehbqxjhbhbhbhbhbhbhbhbBgBvbSbdzjhfcfeDigdbDmbefBrbDqrBgBwqTsJToCmBGUfCpBu"⟩,
  ⟨0xA500, "KjdqkcuBvfidEjBnjcDzcDeuvbBhyCamCqbbBsgdbbdkBhfBjnBddBzbmpbqqkfbCdjosxdCrbbbbyd"⟩,
  ⟨0xAAE0, "qcelgcgcgjhbhbBrbogEtvQNsmxeBxMNcOccEcBmhmffmbnbfbbbcbcbEeBhNzsCmcCcBomEmfbFf"⟩,
  ⟨0xFF21, "BagBalDldgcgcgcdBjmbBabtbcbpcoBiEtCrCbKhBddBxBvBgnBefBrfBecBkeibfBqGcsBkeBkeBo"⟩,
  ⟨0x10530, "CamlbpbhbcblbpbhbcdCamLzjwkiygbBqbjCrgcbbBsbcdbcxkxjBfCntbckwkBagBaBmCegcCmebcfi"⟩,
  ⟨0x10A15, "dbBdBqBddBdBjibBcBbCckwktnsEgCvCdBznBznBoBiBcdbfxJqBqbcdcqgByddBdkbiwBqsBuvBbx"⟩,
  ⟨0x11000, "CsBrfkCfjbnzxBzreiBjdbjCmbejckbbbBjsbBicbgeCkhbbbebpbkhCfxebicccwbhbcbfdiccccdb"⟩,
  ⟨0x11357, "bfhBckbbcbbBmbkbbcbbebcdbbbBsCobdbeudBeCoccbbHcCcchzgBiClbbdbChCccbCtBbcovhHdCf"⟩,
  ⟨0x118A0, "CmBficbcibcbBebcccceDpicBucgbbbcBbBzckrCufbsCvDziDkBhBfjbBtbhbbBxBecwboCvhbcbBs"⟩,
  ⟨0x11D3A, "bbcbdbbccygbcbBlbcbebbxBsKaxjrbBpddEhbDbBJmDyEhrHoDXkDtpBPgrgzFXrfWlKDdBvCPdVx"⟩,
  ⟨0x16A40, "BfrDbrBesBwqeBfvftQqBtIdCmBgzczBsCxeCfhrCmcbbmhjKXyBpBgDtElMWrebhbcbLfpbBddcboe"⟩,
  ⟨0x1B170, "PgDKuEdfndjhkebIWfDhbCtbccbcccebmbbbhbCnbecibhbBcbebfbbdhbNcczbzbBfbzbBfbzbBfbz"⟩,
  ⟨0x1D78A, "BfbzbiCSyBfggIfhbrchbcbffCkBhbEiBtkhqbMjBesBsSqBcIuBecbHzBfbwicIqhbebcbpbHpChCq"⟩,
  ⟨0x1E947, "bdbBUiebBbbcbbcbbkbebbbbgbebbbbbbdbcbbcbbbbbbbbbbcbbcebhbebebbbkbrfdbfbrYeBagBa"⟩,
  ⟨0x1F170, "BaFMkCLFcBgGMocIOccLBlpXyDQwUwCFyHHzfMOo"⟩]

def bidiControl : List Row := [
  ⟨0x061C, "bJVlcBafCde"⟩]

def bidiMirrored : List Row := [
  ⟨0x0028, "csbbbBcbbbBdbbbBtbpbFMseCUncDQqckcCccocGvbHkedgdbdcdebebbbbejfbbsfejcbbbibBgcefb"⟩,
  ⟨0x22A2, "cctfcjfcceycqieuchcBPtoCwbcebcbdfefddoPnwcgboibhgdbefbccfebbdcckgccmtbecbbbcbbe"⟩,
  ⟨0x2A34, "cgdyclceebccceBrcibBofbbbdffdebdfbbJwbTvedcbcocckBriQlkciDACrgfcGgcsbbbBcbbbBdb"⟩,
  ⟨0xFF5D, "bbcbcDDPnbCfbCfbCfbCfb"⟩]

def caseIgnorable : List Row := [
  ⟨0x0027, "bgblbBjbbbCtbebbbebccTjHkecebjcbbJrhHzbfbBxBtbbbcbcbbBsblgklbbBjbkvqbDxibkbeBhb"⟩,
  ⟨0x0711, "bBeBbDnlCglebcbyyBrdBsbhcfjBpCgCdbbbeiebdhkcnbpbCgbeeibucBabccCfbececcddbBecdblc"⟩,
  ⟨0x0ABC, "befbcebucwgbbCgbcbbeibhclcBebCjbmbBybdbCdbbdfdbehclcBdbCgbcbgbfcucBccCfceeibuc"⟩,
  ⟨0x0D81, "bCubhdbbDmbchljDubcjjbbhCvcBbbbbbbCdobfbcflbBkjbDyebgbccczcedqenbccgbpbDqbXkd"⟩,
  ⟨0x1712, "dBdcBecBecCmcbhibcldbfbBtfBzbCncBibEodecjbgdIlccbCgbbhbbbbcigkcbBnbiBucmueBwbbf"⟩,
  ⟨0x1B3C, "bfbBojmcBgeccbdCebbcdbbdCgiccCmgDedbnbhebgbdcByClnbBiDxRdbbdldndndncmfickbcbcf"⟩,
  ⟨0x2060, "fbkbbnbqnBzBhEJrcEjdEvbpbDsBgBvbSbbBkedffbDpgDpdBQBubBWcgKkbDuebkbbBceDccoBiDab"⟩,
  ⟨0xA788, "dDyedcibdbebzcfbFvcBasnbBmizlBudBwbceccrbvcCogccccmbibBjblbBzbbdccfcbbBbbocfcbb"⟩,
  ⟨0xAB5B, "fjdErbcbebBDZsbFrrWbqdbmqBibcbGnbhbgblbBjbbbBvbBtcCpbvdTtbIsbFtfBNpgbBqbjWkdbcfe"⟩,
  ⟨0x10A38, "debGjcWbeBmbBafbbMdcybCagCslBxeEtbCcpBpbcckdBxecccbebkbBydBkfbiCkbmcCajkecbDrdcb"⟩,
  ⟨0x11236, "cgbcbGbbdivcCfcdbBlhdfCsgnbbbbbocDhicdbbxbDggbbecbcJeegcbcBbcDhicbbcEcbbbcgbbDxb"⟩,
  ⟨0x1171F, "bcebfJzjbcJwcbbebFoeccebBgkBogceibjgcdBunbcHqbbdbbHthbgbbDewchbcbcEsgdbbcbhbbCuc"⟩,
  ⟨0x11D95, "bbbCnbKvclcCaffbbbxbHXdrgpQYymddDSafChhjeTodBocSobClrCmcbcncYGaebhbcEUgcbeGYuBu"⟩,
  ⟨0x1CF30, "xUydjqchBeeFsdCYdCdeByibobwfbpCAihbrchbcbffCkBhbGeoOebCjeTnfJucJjbcbhcfbjbRwhEfi"⟩,
  ⟨0x1F3FB, "fBSXXpbBeDsEyJg"⟩]

def cased : List Row := [
  ⟨0x0041, "BagBaBvbkbebfxbBfbHnbeeIacBjhcBefDsbBqecccebbgbbdbbbubDfbFjiGkbBmjBpEFfBmbbfbcBr"⟩,
  ⟨0x10FC, "eZwDicgDFulfBrcdCmHkCmKscgcBmcgcibbbbbbbBfcCbbhbbddbhdecgenfdbhEmbnbqnDxbebckbb"⟩,
  ⟨0x2119, "fgbbbbbbebgebceffebrBgdcBFlCaCRuIvgedcmBmbbfbBTWcBusBeFcDydebCzugbdBFpBrbogDc"⟩,
  ⟨0xFB00, "hmfBNtBagBaBTtDcDsBkeBkEmlbpbhbcblbpbhbcRjbcdbBqbjBUzBznBzDpwkwEFiCmBGIqCmBgzcz"⟩,
  ⟨0x1D400, "DhbCtbccbcccebmbbbhbCnbecibhbBcbebfbbdhbNcczbzbBfbzbBfbzbBfbzbBfbzbiCSykbuggKbCk"⟩,
  ⟨0x1E900, "CqDAaBagBagBa"⟩]

def changesWhenCasefolded : List Row := [
  ⟨0x0041, "BaDmbkxbiBgbbbbbbbbbbbbbbbbbbbbbbbbbbbbbbbbbbbbbbbbbbbbbbbbbbbbbbbcbbbbbbbbbbbbb"⟩,
  ⟨0x0147, "bbcbbbbbbbbbbbbbbbbbbbbbbbbbbbbbbbbbbbbbbbbbbbbbcbbbbbbbcbbbcbdcebcbddcbcbbbbbc"⟩,
  ⟨0x01A9, "bcbbcbdbbbcdbhcbcbcbbbbbbbbbbbbbbbbcbbbbbbbbbbbbbbbbbccbbbdbbbbbbbbbbbbbbbbbbbb"⟩,
  ⟨0x020E, "bbbbbbbbbbbbbbbbbbbbbbbbbbbbbbbbbbbbbhcbccbbebbbbbbbbJmbBqbbbdbibgbbdbbbcbrbjwb"⟩,
  ⟨0x03CF, "ddcbbbbbbbbbbbbbbbbbbbbbbbbbcccbbbccBzBwbbbbbbbbbbbbbbbbbbbbbbbbbbbbbbbbbjbbbbb"⟩,
  ⟨0x0490, "bbbbbbbbbbbbbbbbbbbbbbbbbbbbbbbbbbbbbbbbbbbbbbbbcbbbbbbbbbbbbcbbbbbbbbbbbbbbbbb"⟩,
  ⟨0x04E2, "bbbbbbbbbbbbbbbbbbbbbbbbbbbbbbbbbbbbbbbbbbbbbbbbbbbbbbbbbbbbbbbbbbbbbbbbbbbbbcBm"⟩,
  ⟨0x0587, "bEFgBmbbfbBFegDFukgBrcdMibbbbbbbbbbbbbbbbbbbbbbbbbbbbbbbbbbbbbbbbbbbbbbbbbbbbbbb"⟩,
  ⟨0x1E38, "bbbbbbbbbbbbbbbbbbbbbbbbbbbbbbbbbbbbbbbbbbbbbbbbbbbbbbbbbbbbbbbbbbbbbbbbbbbbbbb"⟩,
  ⟨0x1E88, "bbbbbbbbbbbbbfccbbbbbbbbbbbbbbbbbbbbbbbbbbbbbbbbbbbbbbbbbbbbbbbbbbbbbbbbbbbbbbb"⟩,
  ⟨0x1EDE, "bbbbbbbbbbbbbbbbbbbbbbbbbbbbbbbbbjiigkiiiiglbbbbbbbiiqBwcdcgfdcglemffdcgLlbdcgb"⟩,
  ⟨0x2160, "qtbBFmBaCSuBwBwbbdcbbbbbbebbcbidbbbbbbbbbbbbbbbbbbbbbbbbbbbbbbbbbbbbbbbbbbbbbbbb"⟩,
  ⟨0x2CB2, "bbbbbbbbbbbbbbbbbbbbbbbbbbbbbbbbbbbbbbbbbbbbbbbbbibbbebBTYjbbbbbbbbbbbbbbbbbbbbb"⟩,
  ⟨0xA656, "bbbbbbbbbbbbbbbbbbbbbbbtbbbbbbbbbbbbbbbbbbbbbbbbbbbFfbbbbbbbbbbbbbdbbbbbbbbbbbbb"⟩,
  ⟨0xA740, "bbbbbbbbbbbbbbbbbbbbbbbbbbbbbbbbbbbbbbbbbbbbbbbkbbbbcbbbbbbbbebbbcbbbdbbbbbbbbb"⟩,
  ⟨0xA7A0, "bbbbbbbbbbfbfbbbbbbbbbbbbbbbebbbcbbbbbbbbbbbbbbbbybBIgDcBEAihmfBNtBaBUzBoFgBkGal"⟩,
  ⟨0x1057C, "pbhbcCQcBzGbwEGoBgBGJwBgCmzBUHzBi"⟩]

def changesWhenCasemapped : List Row := [
  ⟨0x0041, "BagBaCgbkxbBfbCmbDgbBccoccbbeDpbsgBbbcbbbcdcbebfcbbccbhbcbbcdgfbkcGkbBqeccddbbgb"⟩,
  ⟨0x0388, "dbbbubBvdBhbfbFdiGkbBmkBnEFgBmbbfbcBrcdZwDicgDFulfBrcdHdbdbqbEjGacbbEocgcBmcgci"⟩,
  ⟨0x1F59, "bbbbbbBfcCbbhbbddbhdecgenfdbhLlbdcgbBbbrBgdcBFlCaCRuEjbcbchDyhedcmBmbbfbBTWcBu"⟩,
  ⟨0xA680, "BcFeocCkjpddcfbzbBtycBHcbBcDcBEAihmfBNtBagBaBTtDcDsBkeBkEmlbpbhbcblbpbhbcCOpBz"⟩,
  ⟨0x10CC0, "BzDpwkwEFiCmBGIqCmBgzczBUGyCq"⟩]

def changesWhenLowercased : List Row := [
  ⟨0x0041, "BaDxxbhBhbbbbbbbbbbbbbbbbbbbbbbbbbbbbbbbbbbbbbbbbbbbbbbbbbbbbbbbcbbbbbbbbbbbbbbb"⟩,
  ⟨0x014A, "bbbbbbbbbbbbbbbbbbbbbbbbbbbbbbbbbbbbbbbbbbbbbbcbbbbdcbbbcbdcebcbddcbcbbbbbcbbcb"⟩,
  ⟨0x01AE, "cbdbbbcdbhcbcbcbbbbbbbbbbbbbbbbcbbbbbbbbbbbbbbbbbccbbbdbbbbbbbbbbbbbbbbbbbbbbbb"⟩,
  ⟨0x0212, "bbbbbbbbbbbbbbbbbbbbbbbbbbbbbbbbbhcbccbbebbbbbbbbLdbbbdbibgbbdbbbcbrbjBjbibbbbb"⟩,
  ⟨0x03DE, "bbbbbbbbbbbbbbbbbfbcbbccBzBwbbbbbbbbbbbbbbbbbbbbbbbbbbbbbbbbbjbbbbbbbbbbbbbbbbb"⟩,
  ⟨0x049C, "bbbbbbbbbbbbbbbbbbbbbbbbbbbbbbbbbbbbcbbbbbbbbbbbbcbbbbbbbbbbbbbbbbbbbbbbbbbbbbb"⟩,
  ⟨0x04EE, "bbbbbbbbbbbbbbbbbbbbbbbbbbbbbbbbbbbbbbbbbbbbbbbbbbbbbbbbbbbbbbbbbcBmEHdBmbbfb"⟩,
  ⟨0x13A0, "DiDGlbgBrcdMibbbbbbbbbbbbbbbbbbbbbbbbbbbbbbbbbbbbbbbbbbbbbbbbbbbbbbbbbbbbbbbbbbb"⟩,
  ⟨0x1E44, "bbbbbbbbbbbbbbbbbbbbbbbbbbbbbbbbbbbbbbbbbbbbbbbbbbbbbbbbbbbbbbbbbbbbbbbbbbbbbbb"⟩,
  ⟨0x1E94, "bjbbbbbbbbbbbbbbbbbbbbbbbbbbbbbbbbbbbbbbbbbbbbbbbbbbbbbbbbbbbbbbbbbbbbbbbbbbbbb"⟩,
  ⟨0x1EEC, "bbbbbbbbbbbbbbbbbbbjiigkiiiiglbbbbbbbiiyiiiiiiflflemflfLlbdcgbBtqtbBFmBaCSuBwBwb"⟩,
  ⟨0x2C62, "dcbbbbbbebbcbidbbbbbbbbbbbbbbbbbbbbbbbbbbbbbbbbbbbbbbbbbbbbbbbbbbbbbbbbbbbbbbbb"⟩,
  ⟨0x2CC2, "bbbbbbbbbbbbbbbbbbbbbbbbbbbbbbbbbibbbebBTYjbbbbbbbbbbbbbbbbbbbbbbbbbbbbbbbbbbbbb"⟩,
  ⟨0xA666, "bbbbbbbtbbbbbbbbbbbbbbbbbbbbbbbbbbbFfbbbbbbbbbbbbbdbbbbbbbbbbbbbbbbbbbbbbbbbbbbb"⟩,
  ⟨0xA750, "bbbbbbbbbbbbbbbbbbbbbbbbbbbbbbbkbbbbcbbbbbbbbebbbcbbbdbbbbbbbbbbbbbbbbbbbbfbfbb"⟩,
  ⟨0xA7B8, "bbbbbbbbbbbbebbbcbbbbbbbbbbbbbbbbybBHAhBaBUzBoFgBkGalbpbhbcCQcBzGbwEGoBgBGJwBg"⟩,
  ⟨0x16EA0, "zBUHzBi"⟩]

def changesWhenTitlecased : List Row := [
  ⟨0x0061, "BaCgbBpybibbbbbbbbbbbbbbbbbbbbbbbbbbbbbbbbbbbbbbbbbbbbbbbbbbbbbbbbcbbbbbbbbbbbbb"⟩,
  ⟨0x0148, "cbbbbbbbbbbbbbbbbbbbbbbbbbbbbbbbbbbbbbbbbbbbbbbcbbbbdcbbbcbdbfbcbddcbcbbbbbcbeb"⟩,
  ⟨0x01B0, "bdbbbcbdbbbebbcbcbbbbbbbbbbbbbbbbbcbbbbbbbbbbbbbbbbbdbbbbdbbbbbbbbbbbbbbbbbbbbb"⟩,
  ⟨0x020F, "bbbbbbbbbbbbbbbbbdbbbbbbbbbbbbbbbbbibccbbebbbbbbbbgbcbbbcdcbebfcbbccbhbcbbcdgfb"⟩,
  ⟨0x029D, "cGkbBrbbbdbddsbBbBjbcddbbbbbbbbbbbbbbbbbbbbbbbfbbcbcbCaBwbbbbbbbbbbbbbbbbbbbbbb"⟩,
  ⟨0x0477, "bbbbbbbbbbbjbbbbbbbbbbbbbbbbbbbbbbbbbbbbbbbbbbbbbbbbbbbbbbbbbbbbbcbbbbbbbbbbbbc"⟩,
  ⟨0x04D1, "bbbbbbbbbbbbbbbbbbbbbbbbbbbbbbbbbbbbbbbbbbbbbbbbbbbbbbbbbbbbbbbbbbbbbbbbbbbbbbb"⟩,
  ⟨0x0521, "bbbbbbbbbbbbbbbBxBnFMegDFujbbJebdbqbEkbbbbbbbbbbbbbbbbbbbbbbbbbbbbbbbbbbbbbbbbb"⟩,
  ⟨0x1E2B, "bbbbbbbbbbbbbbbbbbbbbbbbbbbbbbbbbbbbbbbbbbbbbbbbbbbbbbbbbbbbbbbbbbbbbbbbbbbbbbb"⟩,
  ⟨0x1E7B, "bbbbbbbbbbbbbbbbbbbbbbbbbbhfbbbbbbbbbbbbbbbbbbbbbbbbbbbbbbbbbbbbbbbbbbbbbbbbbbb"⟩,
  ⟨0x1ED5, "bbbbbbbbbbbbbbbbbbbbbbbbbbbbbbbbbbbbbbbbbbjigkiiiigkiiiiociiiiiifbcgbddbcieccii"⟩,
  ⟨0x1FF2, "dbcNebBhqebBGlBaCTqBwbbdcbbbbbbgbcbkbbbbbbbbbbbbbbbbbbbbbbbbbbbbbbbbbbbbbbbbbbb"⟩,
  ⟨0x2CAD, "bbbbbbbbbbbbbbbbbbbbbbbbbbbbbbbbbbbbbbbbbbbbbbbbbbbbbbbibbbebmBmbbfbBTWdbbbbbbb"⟩,
  ⟨0xA649, "bbbbbbbbbbbbbbbbbbbbbbbbbbbbbbbbbbbbbtbbbbbbbbbbbbbbbbbbbbbbbbbbbFfbbbbbbbbbbbbb"⟩,
  ⟨0xA733, "bbbbbbbbbbbbbbbbbbbbbbbbbbbbbbbbbbbbbbbbbbbbbbbbbbbbbbbbbbbbbkbbbcbbbbbbbbbebeb"⟩,
  ⟨0xA793, "ccbbbbbbbbbbbbbbbbbbblbbbbbbbbbbbbbbbebbbcbbbbbbbbbbbbbbbBabBHcbBcDcBEAihmfBOzBa"⟩,
  ⟨0x10428, "BoFgBkFzlbpbhbcCRbBzEvwEGoBgBGJwBgChzBUIgBi"⟩]

def changesWhenUppercased : List Row := [
  ⟨0x0061, "BaCgbBpybibbbbbbbbbbbbbbbbbbbbbbbbbbbbbbbbbbbbbbbbbbbbbbbbbbbbbbbbcbbbbbbbbbbbbb"⟩,
  ⟨0x0148, "cbbbbbbbbbbbbbbbbbbbbbbbbbbbbbbbbbbbbbbbbbbbbbbcbbbbdcbbbcbdbfbcbddcbcbbbbbcbeb"⟩,
  ⟨0x01B0, "bdbbbcbdbbbfcbcbcbbbbbbbbbbbbbbbcbbbbbbbbbbbbbbbbbcbcbbdbbbbbbbbbbbbbbbbbbbbbbb"⟩,
  ⟨0x0211, "bbbbbbbbbbbbbbbdbbbbbbbbbbbbbbbbbibccbbebbbbbbbbgbcbbbcdcbebfcbbccbhbcbbcdgfbkc"⟩,
  ⟨0x0345, "bBrbbbdbddsbBbBjbcddbbbbbbbbbbbbbbbbbbbbbbbfbbcbcbCaBwbbbbbbbbbbbbbbbbbbbbbbbbbb"⟩,
  ⟨0x047B, "bbbbbbbjbbbbbbbbbbbbbbbbbbbbbbbbbbbbbbbbbbbbbbbbbbbbbbbbbbbbbcbbbbbbbbbbbbcbbbb"⟩,
  ⟨0x04D5, "bbbbbbbbbbbbbbbbbbbbbbbbbbbbbbbbbbbbbbbbbbbbbbbbbbbbbbbbbbbbbbbbbbbbbbbbbbbbbbb"⟩,
  ⟨0x0525, "bbbbbbbbbbbBxBnEHcBrcdBDggDFujbbJebdbqbEkbbbbbbbbbbbbbbbbbbbbbbbbbbbbbbbbbbbbbbb"⟩,
  ⟨0x1E29, "bbbbbbbbbbbbbbbbbbbbbbbbbbbbbbbbbbbbbbbbbbbbbbbbbbbbbbbbbbbbbbbbbbbbbbbbbbbbbbb"⟩,
  ⟨0x1E79, "bbbbbbbbbbbbbbbbbbbbbbbbbbbbhfbbbbbbbbbbbbbbbbbbbbbbbbbbbbbbbbbbbbbbbbbbbbbbbbb"⟩,
  ⟨0x1ED3, "bbbbbbbbbbbbbbbbbbbbbbbbbbbbbbbbbbbbbbbbbbbbjigkiiiigkiiiiocCbbcebbbddbcebdeccii"⟩,
  ⟨0x1FF2, "dbcebMzbBhqebBGlBaCTqBwbbdcbbbbbbgbcbkbbbbbbbbbbbbbbbbbbbbbbbbbbbbbbbbbbbbbbbbb"⟩,
  ⟨0x2CAB, "bbbbbbbbbbbbbbbbbbbbbbbbbbbbbbbbbbbbbbbbbbbbbbbbbbbbbbbbbibbbebmBmbbfbBTWdbbbbb"⟩,
  ⟨0xA647, "bbbbbbbbbbbbbbbbbbbbbbbbbbbbbbbbbbbbbbbtbbbbbbbbbbbbbbbbbbbbbbbbbbbFfbbbbbbbbbbb"⟩,
  ⟨0xA72F, "bdbbbbbbbbbbbbbbbbbbbbbbbbbbbbbbbbbbbbbbbbbbbbbbbbbbbbbbbbbbbbbkbbbcbbbbbbbbbeb"⟩,
  ⟨0xA791, "bbccbbbbbbbbbbbbbbbbbbblbbbbbbbbbbbbbbbebbbcbbbbbbbbbbbbbbbBabBHcbBcDcBEAihmf"⟩,
  ⟨0xFF41, "BaBVhBoFgBkFzlbpbhbcCRbBzEvwEGoBgBGJwBgChzBUIgBi"⟩]

def dash : List Row := [
  ⟨0x002D, "bCAubBzbFKjbBNpbDBdgCjbBnbpbPabEOibcbBfcebBcbRebtbEhbCZWacBlbkbGnbFLobMgb"⟩]

def defaultIgnorableCodePoint : List Row := [
  ⟨0x00AD, "bZxbBBobEGwcCKhcDhfDApfBafBxqGKybCZMpqJfbGebDbjCTLneHWxiBTKZlGBo"⟩]

def deprecated : List Row := [
  ⟨0x0149, "bBYvbDKtbbbDCjcDIjgBAvcBZRYkb"⟩]

def diacritic : List Row := [
  ⟨0x005E, "bbbCtbgbebccTjGdbifgrcebjcJtfIbbCdBtbbbcbcbbFbiecFececddCpBbDnlCglBicEwiBpkqBc"⟩,
  ⟨0x093C, "bqbdeBcbCwbqbEgbqbEgbqbBvdCibqbhbEpbEgbqbEgbqbEfcqbEubEhbmgbbEdbnfCxcBbbbbbbec"⟩,
  ⟨0x0F82, "dbcCkbEibbcBocefzhbbkcBBddBKmcBebFsljbNjdLgbuicbBwpcldpcmCubpbBmjCccCgblcCocCmg"⟩,
  ⟨0x1CD0, "zebgbcdByClBwBkfmBllRdbbdldndndncEXkdMfbTmgEbeDrbBSMkbmcbbBccDecoBiDydDybgcmbBlb"⟩,
  ⟨0xA8C4, "bBbsCfeBkbDrbmbBkbFtdCneBzbDwfjdEycBDZsbBDpqKkbbbBvbBtcCpbBDkbBTngbBqbjYndebGjc"⟩,
  ⟨0x10D22, "gBmbBafPgbcdCslBxeHkbBpbCucEqcCkbCybjdEacGwcDccqbyhdfDldbcncDrbdbEtcJrcEwbEocElb"⟩,
  ⟨0x11839, "cJycebGabDfbsbDdbQfbJybbcDdbCnbNvcxbHYapQZpbDSafChhVscVarDccYGcebhbcLThBucxUyddg"⟩,
  ⟨0x1D17B, "ichBeeFMwCkHmhOlbCjeBDmcBCihEfdbd"⟩]

def emoji : List Row := [
  ⟨0x0023, "bgbfkEhbebLYrbmbIibwbDmgpcOdcmbGkbzledHrbIxckbjbCgebfjbcbcccbebcbbccbdbdcidfbbb"⟩,
  ⟨0x2648, "mlccbbcbbsbccsgbbbcdcfbcceclcfccbfcbbbcucfgbecbebcbcgbbcbbbbbgbdbgbkcpbcbebbbed"⟩,
  ⟨0x2757, "blcBwdjbobobOicRvdtcBzbebBVubmbXdbbbGMRqbHubGecmcobckCxBabcxbubcjvcGsBicEiccbd"⟩,
  ⟨0x1F39E, "DfcdbKdbCllgbyhccimbcecbecnccbicjbfdmdidcbbbebgbdbgDiBwCsficedkdbbcdbckItmebKxBv"⟩,
  ⟨0x1F93C, "kbHdEindldCfbbeqcmek"⟩]

def emojiComponent : List Row := [
  ⟨0x0023, "bgbfkMBjbIfbDFTrbDOIwBaTnfCEaeBSVUqDs"⟩]

def emojiModifier : List Row := [
  ⟨0x1F3FB, "f"⟩]

def emojiModifierBase : List Row := [
  ⟨0x261D, "bIlbqeGSJvbCidcbcdEncclvtdbedbdhbbbybHtcebvbecGsddfDfbqdjblbWdbcbiigbjkcdCebCjc"⟩,
  ⟨0x1F9B8, "cbbrdbnIvdBqj"⟩]

def emojiPresentation : List Row := [
  ⟨0x231A, "cHxedbcbUbcvcBymBrbtbnbicrcfcibfbvbhcbbebcbhbecBcbBjbbbedbbCjdybobBHbcBzbebGPLeb"⟩,
  ⟨0x1F0CF, "bHibckCxBabbybubcfbdvcGsBhmjbCsbwmBrefmrdbdCtbbbHfcClnebysbBacnbDiDhBwCsgbddcede"⟩,
  ⟨0x1F6EB, "chjItmebKxBvbkbHdEindldCfbbeqcmek"⟩]

def extendedPictographic : List Row := [
  ⟨0x00A9, "bebLYrbmbIibwbDmgpcOdcmbGkbzledHrbIxckbjbCgebfjbcbcccbebcbbccbdbdcidfbbbfmlccbbc"⟩,
  ⟨0x2668, "bsbccsgbbbcdcfbcceclcfccbfcbbbcucfgbecbebcbcgbbcbbbbbgbdbgbkcpbcbebbbedbblcBwdjb"⟩,
  ⟨0x27B0, "bobOicRvdtcBzbebBVubmbXdbbbGMRqbBneDwmpcpbocBlkEicmcobcktCeBbpkbubcjbejxgHgcEicc"⟩,
  ⟨0x1F399, "dcDfcdbefJubCllgbyhccimbcecbecnccbicjbfdmdidcbbbebgbdbgDiBwCsficrdbbgcnIkBmmeCei"⟩,
  ⟨0x1F85A, "gBoiBecmecojBnmBvbkbHdDkioFqJwBNi"⟩]

def extender : List Row := [
  ⟨0x00B7, "bUqcBHubQzbYgbFhbDlbBCybExbDNfbCebXnbPibCqbHKjbBrfDzcDpdBQBubCGsbBLabwbFhbEebvc"⟩,
  ⟨0xFF70, "bDBkcCFbbBbbebBVbbLhbEmcTedBVjbBGabBDIecBTkcbbocBQXkcBUfbBGud"⟩]

def graphemeBase : List Row := [
  ⟨0x0020, "DrBhnbWwEiicgehbbbubIqhGkbBmcBycdBubbbcbcbjBbegrklbbBuvqbDxibgccbeBgcbbBeBdDllb"⟩,
  ⟨0x07C0, "BrjhdyebjbdbhpbzfbblfBgqBqCfCdbbbeiebdhkcBdbcbicccwbhbbdedbbcgcccbbncbdeyfbbgec"⟩,
  ⟨0x0A13, "wbhbcbcbcedyebbhkcdbbmbbjbdbwbhbcbfdeibbcdbpcemhbicbicccwbhbcbfdbcbgcccpcbdeslb"⟩,
  ⟨0x0B85, "gddbedcbbbcdcdddmfbbcddbddbvvgdbibdbxbqdbdetdbcccekhkblbdbxbkbfdccbbcxdbcekbdol"⟩,
  ⟨0x0D0E, "dbBpcbbcfdbdbcedbkeBaccbsdybjbbchjcghhkcdmBwbcliinBlcbbbfbybbbkbcjbcfbbjkceBgy"⟩,
  ⟨0x0F1A, "BbbbbbbobBksbfbcfBxibgbnBlBtebgbccczcedqenbccgbpbBobbfbcOnbechbbbecBpbecBhbechbb"⟩,
  ⟨0x12C2, "ecpbCfbecCpfBddBagDicgcZtdDlhsntdcjsonbdpCacbhibcljdkgkglfkgDlhfcBibbfCskBfeecd"⟩,
  ⟨0x1930, "cbghbdBqcflBseBagldCfccdCebbjbbcignkgkgoDiBwkedibBdjmcBgecgCebbcdbbnBwicfpdCkfBr"⟩,
  ⟨0x1CBD, "llbnbhebgbdcbfHkCmKscgcBmcgcibbbbbbbBfcCbbpbocgbtcdbjblfyhBxqccBbbndBiCkFkeZqwl"⟩,
  ⟨0x2460, "CRscOndcfBtbbfbcCehcpxjhbhbhbhbhbhbhbhBhDqBiBabDlmIgBaCggqbDieDxfBrbDqbDijBw"⟩,
  ⟨0x3220, "BRIrdCdjNkuBvebkBgcDccgiInurbdbebzcfekgCeiCqkmynbBmizlbmBegBwbcecccbnblehbzbBpgc"⟩,
  ⟨0xAA33, "cldbibbckcBgbBzbbdccfcbbbyrcilgcgcgjhbhbCieEnbcbedkgQNsmxeBxMNcOccEcBmhmffbbybf"⟩,
  ⟨0xFB3E, "bbcbcbZaBgqqkwBjbtbeefbFfeGbcBfdgcgcgcddhbhnccmbBabtbcbpcoBiEtfdeBtdDkbndbBvBt"⟩,
  ⟨0x10280, "BddBxqBbeBkjBefBmkBebBleoBqGcckgBkeBkeBoiCalmbpbhbcblbpbhbcdCamLzjwkiygbBqbjCrg"⟩,
  ⟨0x10808, "bbBsbcdbcxbCuijBwtbcfBhdBbfBbBmCeeucBvpebdbBdkjhjhCmBgBlgmjCcdBdcBbfBahemhDcCv"⟩,
  ⟨0x10C80, "BznBzhBqmkgBmiyicIaBfbBqdbccqgijBnBoiwljwseeBmBcuxjbbCcpheBebccbmBxecccbeozhkjBk"⟩,
  ⟨0x1112C, "bjsiBjbdlCajbbiecbqbulsbBcdcegbcClhbbbebpblgBvbdnkicbicccwbhbcbfdbbbbeccccdbmh"⟩,
  ⟨0x11380, "kbbcbbBmbbbcpbbcdbbdbcBnCeicdbbvbbbdBeBwbcgbbcbbcbceikGkBvbcgecbcBbBkBzicbbcelk"⟩,
  ⟨0x11660, "ntBrbbbcicgkguBcBbdbbcebjxHdBvjbcbDwDfmicbcibcbybfbcgebdjkCsicBqiebeBbbkBogceijb"⟩,
  ⟨0x11A57, "cdBunbcjnCvhkDjbdbbbDkBiokgjbBmobbgkBddBgzbhbcbCxhbcbBmvbjkggbcbBlecbbbbhkgBsek"⟩,
  ⟨0x11EE0, "tcejpbBkicdxDibpBynBJnDyEhbflHoDXkDvnBPgrgzFXrfWlKDdBemddkCOsVxhBfbkeDdbkgBehb"⟩,
  ⟨0x16B00, "BwhpkkbhbvftQqCgHqDnfzczBsCxfCelnCmeofjKXyBpBgDtElMWrebhbcbLfpbBddcboeiPgDKuEdfn"⟩,
  ⟨0x1BC80, "jhkcbcbFVkJtdQugxprDrEmCiJmkBncCifdwchBeeCjvCodbEsumumDjjzFfDhbCtbccbcccebmbbbh"⟩,
  ⟨0x1D4C5, "CnbecibhbBcbebfbbdhbNccLgcVqCdeByibobhBRwBfggKbCkFqBtkhckecMiBesBsekfbRwBcekIgBe"⟩,
  ⟨0x1E5F0, "lebHkBfbdbcbhcfjcIqhbebcbpbHpcjBwCqhbekecBEfCqCyCjHmebBbbcbbcbbkbebbbbgbebbbbbbd"⟩,
  ⟨0x1EE51, "cbbcbbbbbbbbbbcbbcebhbebebbbkbrfdbfbrCacKkBseDwmpcpbpbBlkGsCeBdnBsejhcogFyBLxdr"⟩,
  ⟨0x1F6F0, "ndIkgmebpmeCeikgBoiBecmecojBnNgiocndldCfbbeqcmekhFrbDzBNpCLFcBgGMocIOccLBlpXy"⟩,
  ⟨0x2F800, "UwCFyHHzfMOo"⟩]

/-- Marks that belong to the character in front of them; in quotes they would not show. -/
def graphemeExtend : List Row := [
  ⟨0x0300, "EiKphKdBtbbbcbcbbCulBwvqbDxhcgccbeBjbBeBbDnlCgjjbyebjbdbfBrdChjBqybBgCdbbbeiebdh"⟩,
  ⟨0x0962, "cBdbCgbbbceibjbkcBabccCfbececcddbBecdblcCfbefbcebucwgbbCgbbcbeibhdkcBebChbbbmbjb"⟩,
  ⟨0x0C00, "bdbCdbbdfdbehclcBdbCgbccbbddbehclcBccCfcbbceibjbkcBdbCubebcdbbibDdbchmiDubcjlh"⟩,
  ⟨0x0F18, "cBbbbbbbCdobfbcflbBkjbDyebgbccczcedqenbccgbpbBBbdBKkeBcdBdcBecCmcbhibcljbBtdbb"⟩,
  ⟨0x1885, "cBibEodecjbgdIlccbCgbbhbbbbcigkcbBwBucmueBwkedBmjmcBgecgCebbcdbbfCeiccFwdbnbheb"⟩,
  ⟨0x1CF4, "bdcHqCmUebHnBhEOcdFlbDsBgVigEbcBSQeebkBgcDccKmbdbebzcfbFvcBasnbBmizlbbBsdBwbcecc"⟩,
  ⟨0xA9C0, "bBkbCpgccccmbibBvbBzbbdccfcbbBqcibJebcbebBDZsbBCjqqqOccXhbIsbFtfCMgdbcfeBodebGjc"⟩,
  ⟨0x10D24, "eCnfMfcCzgCslBxeEtbCcpBpbcckdBxecchbCjdBkfbiCkbmcCajbbiecbDrdcegbcbGbbdivcCfcbb"⟩,
  ⟨0x11340, "bmbjbohdfCpbcgbbcbbdedbbocDhicdbbxbDdbcgbbcbbcbcJbbcegcbcBbcDhicbbcEcbbbciDxbbb"⟩,
  ⟨0x11722, "ebfJzjbcJlbkeebFoeccebBgkBogceibjgcdBunbcHqbbdbbHthbgbbDewchbcbcEsgdbbcbhbbCucdb"⟩,
  ⟨0x11D97, "bNjclcCaffdxbHXtbgpQYymddDSafChhBOibCleDdblcBDAxcGYzBucxUwfdgiichBeeFsdCYdCdeBy"⟩,
  ⟨0x1DA75, "bobwfbpCAihbrchbcbfDwbGehOlbCjeToeJucJjbcbhcfbSghEfhBTCAfDsEyJg"⟩]

def hexDigit : List Row := [
  ⟨0x0030, "khgBagDSLlkhgBag"⟩]

def idsBinaryOperator : List Row := [
  ⟨0x2FF0, "cckTdb"⟩]

def idsTrinaryOperator : List Row := [
  ⟨0x2FF2, "c"⟩]

def idContinue : List Row := [
  ⟨0x0030, "khBaebbBaBvbkbbbcbfxbBfbRqemofhbbbrEnbccebbgfbbbubDfbFjbfcGkbBmcbgBpiBtbbbcbcbb"⟩,
  ⟨0x05D0, "BbeeBdlfCweDybickbtcbqChcDxoCcebcbcBusBcelfybhhCxbEzckbtbicccwbhbbdecjccceibecbf"⟩,
  ⟨0x09E6, "mkbbbcdbgeccwbhbcbcbccbbfeccddbhebbhqldbjbdbwbhbcbfckbdbdcbpeckjhbdbicccwbhbcbf"⟩,
  ⟨0x0B3C, "jcccdhdecbfckbbqcbgddbedcbbbcdcdddmefddbecbgbokqnbdbxbqcjbdbehcbdbcceckqebibdbx"⟩,
  ⟨0x0CAA, "kbfcjbdbehcfdbeckbdmnbdbBzbdbffehfckkgbdbsdybjbbchdbegbbbigkccnCgfpbkBncbbbfbybb"⟩,
  ⟨0x0EA7, "xcfbbbhbkceBgbxcgklbbbbbekbBkeubsbBkjbCfCwgDacBmbbfbcBrbMvbechbbbecBpbecBhbechbb"⟩,
  ⟨0x12C2, "ecpbCfbecCpcdjjoqqDicgdXwcrbBafCxdlhwjwlumnbdbcmDgdbecckBhdblgDlhBrfCskBfbmemkBo"⟩,
  ⟨0x1970, "flBseBaglBlBceClbBdclgknbiobBfcmuCzdkrjmEmmCeikdBxclfBrcdqdbBnfUocgcBmcgcibbbbbb"⟩,
  ⟨0x1F5F, "BfcCbbhbbddbhdecgenfdbhpcBxctbBcbnbqnBznebdmrbebckbbcggbbbbbbqceffebrBpDZbIvgj"⟩,
  ⟨0x2D00, "BmbbfbcCehbpyjhbhbhbhbhbhbhbhbBgTxdzpbfcfeDichbDrfBrbDqrBgBwqTsJToCmBGUfCpBucKj"⟩,
  ⟨0xA610, "BcuBwekbElBljcDzcDeuCdebtCamCskkgydbbBxcBkmBddCnolgBfbCdjockgxdCvydcqcfkgcgcgjh"⟩,
  ⟨0xAB28, "hbBrbogEtbcckgQNsmxeBxMNcOccEcBmhmffmbnbfbbbcbcbEeBhNzsCmcCcBomeqqqdcydBgfbFftk"⟩,
  ⟨0xFF21, "BaebbBakDmdgcgcgcdBjmbBabtbcbpcoBiEtCrCbFgbFaBddBxpbBfBgnBefBrfBecBkeibfBqGcck"⟩,
  ⟨0x104B0, "BkeBkeBoiCamlbpbhbcblbpbhbcdCamLzjwkiygbBqbjCrgcbbBsbcdbcxkxjBfCntbckwkBagBaBmCe"⟩,
  ⟨0x109BE, "cCmebcfibdbBdcdebBgBddBdBjibBezCckwktnsEgCvCdBznBznBoikgBmdfbxJqBqbcdcqgByBjkb"⟩,
  ⟨0x10F30, "BhBfwBqvBbxjCtBfqjCihbnzhkgCbbkeeiBkcbjCreebnbbBjsbBlgeCkhbbbebpbkhChfkgebicccw"⟩,
  ⟨0x1132A, "hbcbfbkcccdcbgbfhchdflkbbcbbBmbkbbcbbebincBdCxfkeeBeCsbbikGkCccjxgBiCndblkBmCfhk"⟩,
  ⟨0x116D0, "uBcBbcpekghHdChDxCwvicbcibcbBebccjmkCsicBucibcBbClibiCwdbsCvDziDkBhpkgjbBtbjpk"⟩,
  ⟨0x11C72, "BecwboCvhbcbBsdbbcbjikggbcbBlbcbghkgBsekJmxjrbBpdfnlDhbDbBJmDyEhrHoDXkDtpBPgqw"⟩,
  ⟨0x13460, "FXrfWlKDdCgCOsVxhBfbkgDbbkgBecflCdjemkjvftQqBtdkHqCmBgzczBsCxeCfhrCmcbclhjKXy"⟩,
  ⟨0x18CFF, "BgDtElMWrebhbcbLfpbBddcboeiPgDKuEdfndjhkdcGErkTyBucxUwfdgiichBeeFsdRbDhbCtbccbcc"⟩,
  ⟨0x1D4A9, "ebmbbbhbCnbecibhbBcbebfbbdhbNcczbzbBfbzbBfbzbBfbzbBfbzbicByTsCdeByibobwfbpBQmBf"⟩,
  ⟨0x1DF25, "gIfhbrchbcbffCkBhbEiBtdockebMjBfrCgScBqIgBrHpBfbwicIqhbebcbpbHplhBpCyekBTuebBbbc"⟩,
  ⟨0x1EE24, "bcbbkbebbbbgbebbbbbbdbcbbcbbbbbbbbbbcbbcebhbebebbbkbrfdbfbrFAakBNqCLFcBgGMocIOc"⟩,
  ⟨0x2CEB0, "LBlpXyDQwUwCFyHHzfMOoBOGXyJg"⟩]

def idStart : List Row := [
  ⟨0x0041, "BagBaBvbkbebfxbBfbRqemofhbbbEzfbccebbgbbdbbbubDfbFjiGkbBmcbgBpCtBbeeBtBrBjcbDvbb"⟩,
  ⟨0x06E5, "chckdcbqbbBeBdDllbyBhjcebfwebjbdbxzhlfybhqBqCgCcdbsbhkpqeicccwbhbbdedbqbncbdockb"⟩,
  ⟨0x0A05, "geccwbhbcbcbcBfebbtdqjbdbwbhbcbfdbsbpcxblicccwbhbcbfdbBecbdpbrbbgddbedcbbbcdcdd"⟩,
  ⟨0x0BAE, "mwbCaibdbxbqdbBadbcccBebeibdbxbkbfdbBedbcpcrjbdbBpcbqbfdidygfsdybjbbchCgBwbcmh"⟩,
  ⟨0x0E81, "cbbbfbybbbkbcjbcfbbveBgbClibBkBbfElBrubqgeedbdchdenmbrBmbbfbcBrbMvbechbbbecBpbe"⟩,
  ⟨0x1290, "BhbechbbbecpbCfbecCpBlqqDicgdXwcrbBafCxdlhsntosonbdpCaBjbebCpDlhBpbbfCskBfBxBecf"⟩,
  ⟨0x1980, "BseBaCcxjCbDebDpBvriCcBenckBsBaBkBpdkBkclfBrcdBpebgbcdbfHkCmKscgcBmcgcibbbbbbbBf"⟩,
  ⟨0x1F80, "CbbhbbddbhdecgenfdbhEmbnbqnDxbebckbbcggbbbbbbqceffebrBpDZbIvgedcmBmbbfbcCehbqxjh"⟩,
  ⟨0x2DA8, "hbhbhbhbhbhbhVedzjhfcfeDiefbDmbefBrbDqrBgBwqTsJToCmBGUfCpBucKjdqkcuBvqBfcDcBnj"⟩,
  ⟨0xA722, "DzcDeurbdbebxBdCaoByCkgdbbclBckxzBdhBvBcbqfbkkfbBpxdbiuxdbdBybbdccfcbbbydclhdmg"⟩,
  ⟨0xAB09, "gcgjhbhbBrbogElBdQNsmxeBxMNcOccEcBmhmffbbkbnbfbbbcbcbEeBhNzsCmcCcBomEmfbFfBkBa"⟩,
  ⟨0xFF41, "BalDldgcgcgcdBjmbBabtbcbpcoBiEtCrCbKhBddBxBvBgnBefBmkBecBkeibfBqGcsBkeBkeBoiCaml"⟩,
  ⟨0x1057C, "pbhbcblbpbhbcdCamLzjwkiygbBqbjCrgcbbBsbcdbcxkxjBfCntbckwkBagBaBmCegcCmbpebdbBd"⟩,
  ⟨0x10A60, "BddBdBjibBcBbCckwktnsEgCvCdBznBznBkBmBcjxJqBqgcqgCeBdkbiwBqsBuvBbxmCbCfccbnBtBgz"⟩,
  ⟨0x11103, "BkBdbcbiBjdbmBwoevbbbBjsbztcClhbbbebpbkhBvBmicccwbhbcbfdbsbmfBekbbcbbBmbbzbbb"⟩,
  ⟨0x11400, "CbseudBeBwucbbHcBvBpeBkBwubChBrnbCtBbBlhHdBsEmCmBficbcibcbypbbbDqicBnqbbbBcbkBo"⟩,
  ⟨0x11A3A, "bvblButbsCvHrBhBfjbBlrbBxBeEihbcbBmvbzgbcbBgobxBsKatpbbnbBiEubDbBJmDyEhrHoDXkDt"⟩,
  ⟨0x13000, "BPgrgzFXrfWlKDdBeCPuVxhBfrDbrBesBwqeBfvftQqBtIdCmBgzczBsCxfbConCmcbbofjKXyBpBg"⟩,
  ⟨0x18D80, "ElMWrebhbcbLfpbBddcboeiPgDKuEdfndjhkIWkDhbCtbccbcccebmbbbhbCnbecibhbBcbebfbbdh"⟩,
  ⟨0x1D552, "NcczbzbBfbzbBfbzbBfbzbBfbzbiCSyBfggKbCkFqBtkhqbMjBesBsSqBcIuBecbHzBfbdbcbhcfjc"⟩,
  ⟨0x1E7E0, "hbebcbpbHpChCqhbBUiebBbbcbbcbbkbebbbbgbebbbbbbdbcbbcbbbbbbbbbbcbbcebhbebebbbkbr"⟩,
  ⟨0x1EEA1, "dbfbrGOaCLFcBgGMocIOccLBlpXyDQwUwCFyHHzfMOo"⟩]

def ideographic : List Row := [
  ⟨0x3006, "czjodBLdJToCmBFBkBHSiOccEcBSIkbnfjKXyBpBgDtElNLlPgBDEiCLFcBgGMocIOccLBlpXyDQwUw"⟩,
  ⟨0x30000, "HHzfMOo"⟩]

def joinControl : List Row := [
  ⟨0x200C, "c"⟩]

def logicalOrderException : List Row := [
  ⟨0x0E40, "fEtfEDsdcbCCXmccbbc"⟩]

def lowercase : List Row := [
  ⟨0x0061, "BaBvbkbebBkybibbbbbbbbbbbbbbbbbbbbbbbbbbbbbbbbbbbbbbbbbbbbbbbbbbbbbbbcbbbbbbbbbb"⟩,
  ⟨0x0144, "bbbbcbbbbbbbbbbbbbbbbbbbbbbbbbbbbbbbbbbbbbbbbbbbbbbcbbbbdcbbbcbdcebcbddcbcbbbbb"⟩,
  ⟨0x01A8, "bbcbbcbdbbbcccdgbcbcbbbbbbbbbbbbbbbbcbbbbbbbbbbbbbbbbbccbbbdbbbbbbbbbbbbbbbbbbb"⟩,
  ⟨0x020D, "bbbbbbbbbbbbbbbbbbbbbbbbbbbbbbbbbbbbbbhcbccbbebbbbbbbbCrcBjhcBefDsbBrbbbdbcesb"⟩,
  ⟨0x03AC, "BjbcddbbbbbbbbbbbbbbbbbbbbbbbfbbcbccBzBwbbbbbbbbbbbbbbbbbbbbbbbbbbbbbbbbbbjbbbbb"⟩,
  ⟨0x0491, "bbbbbbbbbbbbbbbbbbbbbbbbbbbbbbbbbbbbbbbbbbbbbbbcbbbbbbbbbbbbcbbbbbbbbbbbbbbbbbb"⟩,
  ⟨0x04E3, "bbbbbbbbbbbbbbbbbbbbbbbbbbbbbbbbbbbbbbbbbbbbbbbbbbbbbbbbbbbbbbbbbbbbbbbbbbbbb"⟩,
  ⟨0x0560, "BpEHbBrbeBDggDFujbbEnHkCnbbbbbbbbbbbbbbbbbbbbbbbbbbbbbbbbbbbbbbbbbbbbbbbbbbbbbbb"⟩,
  ⟨0x1E39, "bbbbbbbbbbbbbbbbbbbbbbbbbbbbbbbbbbbbbbbbbbbbbbbbbbbbbbbbbbbbbbbbbbbbbbbbbbbbbbb"⟩,
  ⟨0x1E89, "bbbbbbbbbbbbjbbbbbbbbbbbbbbbbbbbbbbbbbbbbbbbbbbbbbbbbbbbbbbbbbbbbbbbbbbbbbbbbbb"⟩,
  ⟨0x1EE1, "bbbbbbbbbbbbbbbbbbbbbbbbbbbbbbjigkiiiigkiiiiociiiiiifbcgbddbciecciikdbcErbnbqn"⟩,
  ⟨0x210A, "bdcdbBbbebebccieebBhqebBGlBaCTqBwbbdcbbbbbbebbcbidbbbbbbbbbbbbbbbbbbbbbbbbbbbbb"⟩,
  ⟨0x2C9F, "bbbbbbbbbbbbbbbbbbbbbbbbbbbbbbbbbbbbbbbbbbbbbbbbbbbbbbbbbbbbbbbbbbbbchbbbebmBmbb"⟩,
  ⟨0x2D2D, "bBTWdbbbbbbbbbbbbbbbbbbbbbbbbbbbbbbbbbbbbbbbbbbbbbtbbbbbbbbbbbbbbbbbbbbbbbbbbd"⟩,
  ⟨0xA723, "bbbbbbbbbbbbdbbbbbbbbbbbbbbbbbbbbbbbbbbbbbbbbbbbbbbbbbbbbbbbbbbbbbbbbbbbbbkbbbb"⟩,
  ⟨0xA77F, "bbbbbbbbbebbbcbbdbbbbbbbbbbbbbbbbbbbbfbfbbbbbbbbbbbbbbbebbbcbbbbbbbbbbbbbbbvebb"⟩,
  ⟨0xA7F8, "dBFpBrbogDcBEAihmfBOzBaBVhBoFgBkFzlbpbhbcRjbcdbBqbjBXlBzEvwEGoBgBGJwBgChzBMJeBa"⟩,
  ⟨0x1D44E, "hbsBaBaBaebbbhblBaBaBaBaBaBaBaBaBaBaBaBaBaBaBaBaBaBcBczbgBazbgBazbgBazbgBazbgbb"⟩,
  ⟨0x1DF00, "kbuggKbCkDHsBi"⟩]

def math : List Row := [
  ⟨0x002B, "bqdBfbBdbbbBtbebBlbBfbBCadcbBaccdUhdJWnbBbdlbdbnboevflfCnnebdcefsbebckbbcggbdccc"⟩,
  ⟨0x212F, "dbgdobbCqybgbceceBgbbgcoKiieucDmbBeBbbbyblhRdcmkegecccdfobbbcglifcCfbbbBdejdMyCm"⟩,
  ⟨0x2900, "TsBwvcgDASqbBFrgbbGgbqdBdbbbBdbbbFbbgeFEfcCVGabBXvDhbCtbccbcccebmbbbhbCnbecibh"⟩,
  ⟨0x1D51E, "BcbebfbbdhbNccLgcByIIqebBbbcbbcbbkbebbbbgbebbbbbbdbcbbcbbbbbbbbbbcbbcebhbebebbbk"⟩,
  ⟨0x1EE8B, "rfdbfbrCacDTej"⟩]

def noncharacterCodePoint : List Row := [
  ⟨0xFDD0, "BgUgcDSYocDSYocDSYocDSYocDSYocDSYocDSYocDSYocDSYocDSYocDSYocDSYocDSYocDSYocDSYoc"⟩,
  ⟨0x10FFFE, "c"⟩]

def patternSyntax : List Row := [
  ⟨0x0021, "pkhBaebbBaeBihbbbcbbbcebebdbxbBfbLUeyipctbkLtBBsGeYgBeBRoTsEyOvdezpbCZQzcKbc"⟩]

def patternWhiteSpace : List Row := [
  ⟨0x0009, "fsbDwbLYmcyc"⟩]

def quotationMark : List Row := [
  ⟨0x0022, "bebFbbpbLWuizcFIdbRpendDABpeHhbebDmc"⟩]

def radical : List Row := [
  ⟨0x2E80, "BabDlmIg"⟩]

def regionalIndicator : List Row := [
  ⟨0x1F1E6, "Ba"⟩]

def sentenceTerminal : List Row := [
  ⟨0x0021, "bmbqbCAbbFrdGybBrdJmbCjbbbdcLhcCPwcBEkbecBDtbHqcGbcBtbfbMccNqeGgckcccBddHfcCnc"⟩,
  ⟨0x2024, "bxcjdEUxdLubnbwcQnbBSHwbKkcItbdbOscDicDrbFwcFrdFocJpbBFCwbccChbdcGnbmbqbCnbEDwc"⟩,
  ⟨0x10F55, "fBseHhcEneExdEzcgbqcDkcbcEebLmcEncOjcfpEbcJpdTxbbbJrcDjcQecBAqcCwcBCMbcFdbCnclb"⟩,
  ⟨0x16D6E, "cLkbBDOgbLImb"⟩]

def softDotted : List Row := [
  ⟨0x0069, "cHobKvbBebCabubMibDubbbJMnbBzbnbdbFcbGbbQfbIgcEGgbGELhcBycBycBycBycBycBycBycByc"⟩,
  ⟨0x1D5F6, "cBycBycBycDFybLtcBab"⟩]

def terminalPunctuation : List Row := [
  ⟨0x0021, "bkbbblcdbBFybibTtbCfbCubobbdGybBrlbbJbcCcgbiBfbKbcBWucGqbegLzcBEjiBDtbEudCtcGbd"⟩,
  ⟨0x17DA, "bBneccMccNqeGgckcbdBddHffCkcBJwbxcjdEUxdLubnbebkbbcdcQmcBSHvcKjdItfOscDicDrbFvd"⟩,
  ⟨0xAA5D, "dExbqcJpbBFCwbccCfdbeGnbkbbblcdbCnbcbBPqbBwbBSobHrbLycFwgCqgDleBKqfBseHhhEieExd"⟩,
  ⟨0x111C5, "cgbqcDkfEebLmcEndmcNuedpEbcJpdTxbbbJrcDjcecPydBtbYvcCwcBYxfBAMzcFdbCndkbVhcLjc"⟩,
  ⟨0x1BC9F, "bLIle"⟩]

def unifiedIdeograph : List Row := [
  ⟨0x3400, "JToCmBFBkBICscbbbckbbbbccdDVEcCLFcBgGMocIOccLBlpXyGRqHHzfMOo"⟩]

def uppercase : List Row := [
  ⟨0x0041, "BaDxxbhBhbbbbbbbbbbbbbbbbbbbbbbbbbbbbbbbbbbbbbbbbbbbbbbbbbbbbbbbcbbbbbbbbbbbbbbb"⟩,
  ⟨0x014A, "bbbbbbbbbbbbbbbbbbbbbbbbbbbbbbbbbbbbbbbbbbbbbbcbbbbdcbbbcbdcebcbddcbcbbbbbcbbcb"⟩,
  ⟨0x01AE, "cbdbbbcdbhbcbcbcbbbbbbbbbbbbbbbcbbbbbbbbbbbbbbbbbcbcbbdbbbbbbbbbbbbbbbbbbbbbbbb"⟩,
  ⟨0x0212, "bbbbbbbbbbbbbbbbbbbbbbbbbbbbbbbbbhcbccbbebbbbbbbbLdbbbdbibgbbdbbbcbrbjBjbcddbbb"⟩,
  ⟨0x03DC, "bbbbbbbbbbbbbbbbbbbfbcbbccBzBwbbbbbbbbbbbbbbbbbbbbbbbbbbbbbbbbbjbbbbbbbbbbbbbbb"⟩,
  ⟨0x049A, "bbbbbbbbbbbbbbbbbbbbbbbbbbbbbbbbbbbbbbcbbbbbbbbbbbbcbbbbbbbbbbbbbbbbbbbbbbbbbbb"⟩,
  ⟨0x04EC, "bbbbbbbbbbbbbbbbbbbbbbbbbbbbbbbbbbbbbbbbbbbbbbbbbbbbbbbbbbbbbbbbbbbcBmEHdBmbbfb"⟩,
  ⟨0x13A0, "DiDGlbgBrcdMibbbbbbbbbbbbbbbbbbbbbbbbbbbbbbbbbbbbbbbbbbbbbbbbbbbbbbbbbbbbbbbbbbb"⟩,
  ⟨0x1E44, "bbbbbbbbbbbbbbbbbbbbbbbbbbbbbbbbbbbbbbbbbbbbbbbbbbbbbbbbbbbbbbbbbbbbbbbbbbbbbbb"⟩,
  ⟨0x1E94, "bjbbbbbbbbbbbbbbbbbbbbbbbbbbbbbbbbbbbbbbbbbbbbbbbbbbbbbbbbbbbbbbbbbbbbbbbbbbbbb"⟩,
  ⟨0x1EEC, "bbbbbbbbbbbbbbbbbbbjiigkiiiiglbbbbbbbiiCuemememfleKcbebddcdcbdfgbbbbbbecekcfbBaq"⟩,
  ⟨0x2183, "bBFmBaCSuBwBwbbdcbbbbbbebbcbidbbbbbbbbbbbbbbbbbbbbbbbbbbbbbbbbbbbbbbbbbbbbbbbbbb"⟩,
  ⟨0x2CB4, "bbbbbbbbbbbbbbbbbbbbbbbbbbbbbbbbbbbbbbbbbbbbbbbibbbebBTYjbbbbbbbbbbbbbbbbbbbbbbb"⟩,
  ⟨0xA658, "bbbbbbbbbbbbbbbbbbbbbtbbbbbbbbbbbbbbbbbbbbbbbbbbbFfbbbbbbbbbbbbbdbbbbbbbbbbbbbbb"⟩,
  ⟨0xA742, "bbbbbbbbbbbbbbbbbbbbbbbbbbbbbbbbbbbbbbbbbbbbbkbbbbcbbbbbbbbebbbcbbbdbbbbbbbbbbb"⟩,
  ⟨0xA7A2, "bbbbbbbbfbfbbbbbbbbbbbbbbbebbbcbbbbbbbbbbbbbbbbybBHAhBaBUzBoFgBkGalbpbhbcCQcBz"⟩,
  ⟨0x10D50, "wEGoBgBGJwBgCmzBMJfBaBaBaBaBaBabbccbcccebiBaBaBacbecibhBbcbebfbbdhBbBaBaBaBaBa"⟩,
  ⟨0x1D608, "BaBaBaBaBaBezBhzBhzBhzBhzBhbGNlBiDBiBagBagBa"⟩]

def variationSelector : List Row := [
  ⟨0x180B, "dbbDJCaqBWNKyJg"⟩]

/-- Blanks of all scripts.  Trimming and verbose patterns both go by this property, and
not by the blanks that are ASCII. -/
def whiteSpace : List Row := [
  ⟨0x0009, "fsbDwbBabIHjbDPnlBdcfbBvbFXwb"⟩]

def xidContinue : List Row := [
  ⟨0x0030, "khBaebbBaBvbkbbbcbfxbBfbRqemofhbbbrEnbcddbbgfbbbubDfbFjbfcGkbBmcbgBpiBtbbbcbcbb"⟩,
  ⟨0x05D0, "BbeeBdlfCweDybickbtcbqChcDxoCcebcbcBusBcelfybhhCxbEzckbtbicccwbhbbdecjccceibecbf"⟩,
  ⟨0x09E6, "mkbbbcdbgeccwbhbcbcbccbbfeccddbhebbhqldbjbdbwbhbcbfckbdbdcbpeckjhbdbicccwbhbcbf"⟩,
  ⟨0x0B3C, "jcccdhdecbfckbbqcbgddbedcbbbcdcdddmefddbecbgbokqnbdbxbqcjbdbehcbdbcceckqebibdbx"⟩,
  ⟨0x0CAA, "kbfcjbdbehcfdbeckbdmnbdbBzbdbffehfckkgbdbsdybjbbchdbegbbbigkccnCgfpbkBncbbbfbybb"⟩,
  ⟨0x0EA7, "xcfbbbhbkceBgbxcgklbbbbbekbBkeubsbBkjbCfCwgDacBmbbfbcBrbMvbechbbbecBpbecBhbechbb"⟩,
  ⟨0x12C2, "ecpbCfbecCpcdjjoqqDicgdXwcrbBafCxdlhwjwlumnbdbcmDgdbecckBhdblgDlhBrfCskBfbmemkBo"⟩,
  ⟨0x1970, "flBseBaglBlBceClbBdclgknbiobBfcmuCzdkrjmEmmCeikdBxclfBrcdqdbBnfUocgcBmcgcibbbbbb"⟩,
  ⟨0x1F5F, "BfcCbbhbbddbhdecgenfdbhpcBxctbBcbnbqnBznebdmrbebckbbcggbbbbbbqceffebrBpDZbIvgj"⟩,
  ⟨0x2D00, "BmbbfbcCehbpyjhbhbhbhbhbhbhbhbBgTxdzpbfcfeDicccdbDrfBrbDqrBgBwqTsJToCmBGUfCpBu"⟩,
  ⟨0xA500, "KjdBcuBwekbElBljcDzcDeuCdebtCamCskkgydbbBxcBkmBddCnolgBfbCdjockgxdCvydcqcfkgcgcg"⟩,
  ⟨0xAB20, "hbhbBrbogEtbcckgQNsmxeBxMNcOccEcBmhmffmbnbfbbbcbcbEeBhFjgIksCmcCcBokgqqqdcydBhb"⟩,
  ⟨0xFE73, "bdbbbbbbbbEwtkhBaebbBakDmdgcgcgcdBjmbBabtbcbpcoBiEtCrCbFgbFaBddBxpbBfBgnBefBrfBe"⟩,
  ⟨0x103A0, "BkeibfBqGcckgBkeBkeBoiCamlbpbhbcblbpbhbcdCamLzjwkiygbBqbjCrgcbbBsbcdbcxkxjBfCnt"⟩,
  ⟨0x108F4, "ckwkBagBaBmCegcCmebcfibdbBdcdebBgBddBdBjibBezCckwktnsEgCvCdBznBznBoikgBmdfbxJqBq"⟩,
  ⟨0x10EAB, "cdcqgByBjkbiBhBfwBqvBbxjCtBfqjCihbnzhkgCbbkeeiBkcbjCreebnbbBjsbBlgeCkhbbbebpbk"⟩,
  ⟨0x112B0, "ChfkgebicccwbhbcbfbkcccdcbgbfhchdflkbbcbbBmbkbbcbbebincBdCxfkeeBeCsbbikGkCccjxg"⟩,
  ⟨0x11600, "CndblkBmCfhkguBcBbcpekghHdChDxCwvicbcibcbBebccjmkCsicBucibcBbClibiCwdbsCvDziDkBh"⟩,
  ⟨0x11BF0, "kgjbBtbjpkyBecwboCvhbcbBsdbbcbjikggbcbBlbcbghkgBsekJmxjrbBpdfnlDhbDbBJmDyEhrHo"⟩,
  ⟨0x12F90, "DtpBPgqwkFXrfWlKDdCgCOsVxhBfbkgDbbkgBecflCdjemkjvftQqBtdkHqCmBgzczBsCxeCfhrCmcbc"⟩,
  ⟨0x16FF0, "hjKXyBpBgDtElMWrebhbcbLfpbBddcboeiPgDKuEdfndjhkdcGErkTyBucxUwfdgiichBeeFsdRbDh"⟩,
  ⟨0x1D456, "CtbccbcccebmbbbhbCnbecibhbBcbebfbbdhbNcczbzbBfbzbBfbzbBfbzbBfbzbicByTsCdeByibob"⟩,
  ⟨0x1DA9B, "fbpBQmBfggIfhbrchbcbffCkBhbEiBtdockebMjBfrCgScBqIgBrHpBfbwicIqhbebcbpbHplhBpCyek"⟩,
  ⟨0x1EE00, "ebBbbcbbcbbkbebbbbgbebbbbbbdbcbbcbbbbbbbbbbcbbcebhbebebbbkbrfdbfbrFAakBNqCLFc"⟩,
  ⟨0x2A700, "GMocIOccLBlpXyDQwUwCFyHHzfMOoBOGXyJg"⟩]

def xidStart : List Row := [
  ⟨0x0041, "BagBaBvbkbebfxbBfbRqemofhbbbEzfbcddbbgbbdbbbubDfbFjiGkbBmcbgBpCtBbeeBtBrBjcbDvbb"⟩,
  ⟨0x06E5, "chckdcbqbbBeBdDllbyBhjcebfwebjbdbxzhlfybhqBqCgCcdbsbhkpqeicccwbhbbdedbqbncbdockb"⟩,
  ⟨0x0A05, "geccwbhbcbcbcBfebbtdqjbdbwbhbcbfdbsbpcxblicccwbhbcbfdbBecbdpbrbbgddbedcbbbcdcdd"⟩,
  ⟨0x0BAE, "mwbCaibdbxbqdbBadbcccBebeibdbxbkbfdbBedbcpcrjbdbBpcbqbfdidygfsdybjbbchCgBwbbnh"⟩,
  ⟨0x0E81, "cbbbfbybbbkbbkbcfbbveBgbClibBkBbfElBrubqgeedbdchdenmbrBmbbfbcBrbMvbechbbbecBpbe"⟩,
  ⟨0x1290, "BhbechbbbecpbCfbecCpBlqqDicgdXwcrbBafCxdlhsntosonbdpCaBjbebCpDlhBpbbfCskBfBxBecf"⟩,
  ⟨0x1980, "BseBaCcxjCbDebDpBvriCcBenckBsBaBkBpdkBkclfBrcdBpebgbcdbfHkCmKscgcBmcgcibbbbbbbBf"⟩,
  ⟨0x1F80, "CbbhbbddbhdecgenfdbhEmbnbqnDxbebckbbcggbbbbbbqceffebrBpDZbIvgedcmBmbbfbcCehbqxjh"⟩,
  ⟨0x2DA8, "hbhbhbhbhbhbhVedzjhfcfeDigdbDmbefBrbDqrBgBwqTsJToCmBGUfCpBucKjdqkcuBvqBfcDcBnj"⟩,
  ⟨0xA722, "DzcDeurbdbebxBdCaoByCkgdbbclBckxzBdhBvBcbqfbkkfbBpxdbiuxdbdBybbdccfcbbbydclhdmg"⟩,
  ⟨0xAB09, "gcgjhbhbBrbogElBdQNsmxeBxMNcOccEcBmhmffbbkbnbfbbbcbcbEeBhFjgIksCmcCcBokEpbbbdbbb"⟩,
  ⟨0xFE7B, "bbbbEwBkBagBalCecBfdgcgcgcdBjmbBabtbcbpcoBiEtCrCbKhBddBxBvBgnBefBmkBecBkeibfBqGc"⟩,
  ⟨0x104B0, "BkeBkeBoiCamlbpbhbcblbpbhbcdCamLzjwkiygbBqbjCrgcbbBsbcdbcxkxjBfCntbckwkBagBaBmCe"⟩,
  ⟨0x109BE, "cCmbpebdbBdBqBddBdBjibBcBbCckwktnsEgCvCdBznBznBkBmBcjxJqBqgcqgCeBdkbiwBqsBuvBbx"⟩,
  ⟨0x11003, "CbCfccbnBtBgzBaBkBdbcbiBjdbmBwoevbbbBjsbztcClhbbbebpbkhBvBmicccwbhbcbfdbsbmfBek"⟩,
  ⟨0x1138B, "bcbbBmbbzbbbBsCbseudBeBwucbbHcBvBpeBkBwubChBrnbCtBbBlhHdBsEmCmBficbcibcbypbbbDqi"⟩,
  ⟨0x119AA, "BnqbbbBcbkBohbvblButbsCvHrBhBfjbBlrbBxBeEihbcbBmvbzgbcbBgobxBsKatpbbnbBiEubDbBJm"⟩,
  ⟨0x12400, "EhrHoDXkDtpBPgrgzFXrfWlKDdBeCPuVxhBfrDbrBesBwqeBfvftQqBtIdCmBgzczBsCxfbConCmcbb"⟩,
  ⟨0x16FF2, "fjKXyBpBgDtElMWrebhbcbLfpbBddcboeiPgDKuEdfndjhkIWkDhbCtbccbcccebmbbbhbCnbecibh"⟩,
  ⟨0x1D51E, "BcbebfbbdhbNcczbzbBfbzbBfbzbBfbzbBfbzbiCSyBfggKbCkFqBtkhqbMjBesBsSqBcIuBecbHzBf"⟩,
  ⟨0x1E6E0, "dbcbhcfjcIqhbebcbpbHpChCqhbBUiebBbbcbbcbbkbebbbbgbebbbbbbdbcbbcbbbbbbbbbbcbbcebh"⟩,
  ⟨0x1EE74, "ebebbbkbrfdbfbrGOaCLFcBgGMocIOccLBlpXyDQwUwCFyHHzfMOo"⟩]

end SecureSockets.Unicode.Property
