import SecureSockets.Unicode.Table

namespace SecureSockets.Unicode.Script

/-!
The scripts of the Unicode character database, version 17.0. Scripts are numbered
from one in the order of `names`. Script extensions are listed only for the
characters whose extensions differ from their script.
-/

/-- The names of each script, without blanks, hyphens and low lines and in lower case. -/
def names : List (List String) := [
  ["adlm", "adlam"], ["aghb", "caucasianalbanian"], ["ahom"], ["arab", "arabic"],
  ["armi", "imperialaramaic"], ["armn", "armenian"], ["avst", "avestan"], ["bali", "balinese"],
  ["bamu", "bamum"], ["bass", "bassavah"], ["batk", "batak"], ["beng", "bengali"],
  ["berf", "beriaerfe"], ["bhks", "bhaiksuki"], ["bopo", "bopomofo"], ["brah", "brahmi"],
  ["brai", "braille"], ["bugi", "buginese"], ["buhd", "buhid"], ["cakm", "chakma"],
  ["cans", "canadianaboriginal"], ["cari", "carian"], ["cham"], ["cher", "cherokee"],
  ["chrs", "chorasmian"], ["copt", "coptic", "qaac"], ["cpmn", "cyprominoan"],
  ["cprt", "cypriot"], ["cyrl", "cyrillic"], ["deva", "devanagari"], ["diak", "divesakuru"],
  ["dogr", "dogra"], ["dsrt", "deseret"], ["dupl", "duployan"], ["egyp", "egyptianhieroglyphs"],
  ["elba", "elbasan"], ["elym", "elymaic"], ["ethi", "ethiopic"], ["gara", "garay"],
  ["geor", "georgian"], ["glag", "glagolitic"], ["gong", "gunjalagondi"],
  ["gonm", "masaramgondi"], ["goth", "gothic"], ["gran", "grantha"], ["grek", "greek"],
  ["gujr", "gujarati"], ["gukh", "gurungkhema"], ["guru", "gurmukhi"], ["hang", "hangul"],
  ["hani", "han"], ["hano", "hanunoo"], ["hatr", "hatran"], ["hebr", "hebrew"],
  ["hira", "hiragana"], ["hluw", "anatolianhieroglyphs"], ["hmng", "pahawhhmong"],
  ["hmnp", "nyiakengpuachuehmong"], ["hung", "oldhungarian"], ["ital", "olditalic"],
  ["java", "javanese"], ["kali", "kayahli"], ["kana", "katakana"], ["kawi"],
  ["khar", "kharoshthi"], ["khmr", "khmer"], ["khoj", "khojki"], ["kits", "khitansmallscript"],
  ["knda", "kannada"], ["krai", "kiratrai"], ["kthi", "kaithi"], ["lana", "taitham"],
  ["laoo", "lao"], ["latn", "latin"], ["lepc", "lepcha"], ["limb", "limbu"],
  ["lina", "lineara"], ["linb", "linearb"], ["lisu"], ["lyci", "lycian"], ["lydi", "lydian"],
  ["mahj", "mahajani"], ["maka", "makasar"], ["mand", "mandaic"], ["mani", "manichaean"],
  ["marc", "marchen"], ["medf", "medefaidrin"], ["mend", "mendekikakui"],
  ["merc", "meroiticcursive"], ["mero", "meroitichieroglyphs"], ["mlym", "malayalam"], ["modi"],
  ["mong", "mongolian"], ["mroo", "mro"], ["mtei", "meeteimayek"], ["mult", "multani"],
  ["mymr", "myanmar"], ["nagm", "nagmundari"], ["nand", "nandinagari"],
  ["narb", "oldnortharabian"], ["nbat", "nabataean"], ["newa"], ["nkoo", "nko"],
  ["nshu", "nushu"], ["ogam", "ogham"], ["olck", "olchiki"], ["onao", "olonal"],
  ["orkh", "oldturkic"], ["orya", "oriya"], ["osge", "osage"], ["osma", "osmanya"],
  ["ougr", "olduyghur"], ["palm", "palmyrene"], ["pauc", "paucinhau"], ["perm", "oldpermic"],
  ["phag", "phagspa"], ["phli", "inscriptionalpahlavi"], ["phlp", "psalterpahlavi"],
  ["phnx", "phoenician"], ["plrd", "miao"], ["prti", "inscriptionalparthian"],
  ["rjng", "rejang"], ["rohg", "hanifirohingya"], ["runr", "runic"], ["samr", "samaritan"],
  ["sarb", "oldsoutharabian"], ["saur", "saurashtra"], ["sgnw", "signwriting"],
  ["shaw", "shavian"], ["shrd", "sharada"], ["sidd", "siddham"], ["sidt", "sidetic"],
  ["sind", "khudawadi"], ["sinh", "sinhala"], ["sogd", "sogdian"], ["sogo", "oldsogdian"],
  ["sora", "sorasompeng"], ["soyo", "soyombo"], ["sund", "sundanese"], ["sunu", "sunuwar"],
  ["sylo", "sylotinagri"], ["syrc", "syriac"], ["tagb", "tagbanwa"], ["takr", "takri"],
  ["tale", "taile"], ["talu", "newtailue"], ["taml", "tamil"], ["tang", "tangut"],
  ["tavt", "taiviet"], ["tayo", "taiyo"], ["telu", "telugu"], ["tfng", "tifinagh"],
  ["tglg", "tagalog"], ["thaa", "thaana"], ["thai"], ["tibt", "tibetan"], ["tirh", "tirhuta"],
  ["tnsa", "tangsa"], ["todr", "todhri"], ["tols", "tolongsiki"], ["toto"],
  ["tutg", "tulutigalari"], ["ugar", "ugaritic"], ["vaii", "vai"], ["vith", "vithkuqi"],
  ["wara", "warangciti"], ["wcho", "wancho"], ["xpeo", "oldpersian"], ["xsux", "cuneiform"],
  ["yezi", "yezidi"], ["yiii", "yi"], ["zanb", "zanabazarsquare"],
  ["zinh", "inherited", "qaai"], ["zyyy", "common"]]

def rows : List Row := [
  ⟨0x0000, "CnGsBaCwgGsBaCwBvGsbCwpGsbCwfGsxCwbGsBfCwbGsRhCwBnGsfCwfGscpuGsEiGreBubGsdBuca"⟩,
  ⟨0x037A, "eBubGsbBueabBubGsbBubGsdBubabBubauBubaClBuoBaqBuFdBdcGrGnBdbaBmgcaBygcadgbaCdCc"⟩,
  ⟨0x05C8, "iaBbCceagCclafebGsgebGsoebGsdebGsBgebGskelGrBaebGrEeebGsBieoFmbaCiFmcadFmBweByFy"⟩,
  ⟨0x07B2, "oaChDzcadDzBuEvcapEvbaBcDgcabDgbalFmfaBiefaCxebGsBdeDdBeeGrpBecGsBaBeembaimcacm"⟩,
  ⟨0x0991, "cawmbahmbabmdaemcajmcacmcaemiabmeacmbafmcazmcadBxbagBxeacBxcawBxbahBxbacBxbacBx"⟩,
  ⟨0x0A37, "bacBxcabBxbafBxeacBxcadBxdabBxhaeBxbabBxharBxkadBvbajBvbadBvbawBvbahBvbacBvbafBv"⟩,
  ⟨0x0ABA, "cakBvbadBvbadBvcabBvpaeBvcamBvhahBvbadEfbaiEfcacEfcawEfbahEfbacEfbafEfcajEfcacEf"⟩,
  ⟨0x0B49, "cadEfhadEfeacEfbafEfcasEfkacFrbagFrdadFrbaeFrdacFrbabFrbacFrdacFrdadFrdamFreafFr"⟩,
  ⟨0x0BC3, "dadFrbaeFrcabFrgabFroavFrfanFvbadFvbaxFvbaqFvcajFvbadFvbaeFvhacFvbadFvbacFvcaeFv"⟩,
  ⟨0x0C64, "cakFvhajFvnCrbadCrbaxCrbakCrbafCrcajCrbadCrbaeCrhacCrfadCrbaeCrcakCrbadCrmanDnba"⟩,
  ⟨0x0D0E, "dDnbaBzDnbadDnbagDneaqDncaBaDnbadFebasFedayFebajFebabFecahFedabFeeagFebabFebaiFe"⟩,
  ⟨0x0DE0, "gakFecadFemaCgFzeabGsBcFzBlacCvbabCvbafCvbayCvbabCvbaxCvcafCvbabCvbahCvbakCvca"⟩,
  ⟨0x0EDC, "eCvBgaCuGabaBkGaeaBnGabaBkGabapGabahGaeGscGaBlaGeDtBmBobabBofabBocaBrBobGseBo"⟩,
  ⟨0x1100, "JwByCvBmbaeBmcahBmbabBmbaeBmcaBpBmbaeBmcaBhBmbaeBmcahBmbabBmbaeBmcapBmbaCfBmba"⟩,
  ⟨0x1312, "eBmcaCpBmcaBgBmdaBaBmgaDiycagycaYqvBdEbdaCxEudGslEuhawFxjabFxvCacGsjautmanFnba"⟩,
  ⟨0x176E, "dFnbacFnmaDqCocakCogakCogacDpcGsbDpbGsuDpgaDlDphaBrDpfaCsvkaBfCybamCyeamCyeabCy"⟩,
  ⟨0x1941, "damCyBeFpcafFplaBsFqeaBaFqgalFqdacFqBgCoBcscacsClCubaBdCucalCugakCugaoCucaBuGrca"⟩,
  ⟨0x1AE0, "mGruaCzibaByiCmFjCaliaelCeCxdapCxdadCxBwEclBdfaBrBocadBoiFjiadGrbGsnGrbGshGreGs"⟩,
  ⟨0x1CED, "bGrgGsbGrdGscGrbGsfaBmCwfBubBdBxCwfBueCwfBunCwbBdCsCwbBuCmGrJwCwwBucagBucaBmBuca"⟩,
  ⟨0x1F48, "gBucaiBubabBubabBubabBubaBfBucaCbBubapBubaoBucagBubatBucadBubajBubamGscGrDjGsba"⟩,
  ⟨0x2066, "lGsbCwcalGsbCwpGsbanCwdaBiGsoaBhGrpaBmGsbBudGscCwgGsbCwBbGsbCwrGsBpCwdGseaZqGswa"⟩,
  ⟨0x2440, "lGsvaBJsGsJwrYeGscaFiGsDsBpBgCwEmBafahBaBmBobabBofabBocaCeFwhacFwoabFwxBmjahBmba"⟩,
  ⟨0x2DA8, "hBmbahBmbahBmbahBmbahBmbahBmbahBmbaBgBdDqGsBiaBaBzbaDlBzmaIgBzBaavGsbBzbGsbBzzGs"⟩,
  ⟨0x3021, "jBzeGrcByiGseBzeGsbaDiCdcacGrcGsdCdbGsDmClcGsdClfaBrpbaDqBybaqGsBgpBmGsjabGsqCl"⟩,
  ⟨0x3200, "BfBybaCmGsBfByDdGsBvClbGsDkClGmGsJToBzCmGsBFBkBzBSvGpdaCdGpjaBwDbLoGiuaDsBdDkjia"⟩,
  ⟨0xA700, "BiGsDyCwdGsDeCwuapCwBtFldakGsgaCeEmiaCsExiamExgaBgBeBuCkbGsbCkBkEslabEsBdByda"⟩,
  ⟨0xA980, "DaCjbabGskCjeacCjBfDtbaCdxjaoxcakxcaexBgDtCpFtyafFtxDrkagBmcagBmcagBmjahBmbahBm"⟩,
  ⟨0xAB2F, "baBrCwbGsjCwbBueCwcGseaDcyBuDrcakDrgaQNsBymaxByeaBxByMNcaOcBzcaEcBzBmahCwmafgfa"⟩,
  ⟨0xFB1D, "BaCcbafCcbabCcbacCcbacCcbakCcTaecGsFoeBgaqeqGrkGsgaoGrcBdBjGsbatGsbaeGseafebaFfe"⟩,
  ⟨0xFEFD, "cabGsbaBgGsBaCwgGsBaCwlGskClbGsBtClcGsBfBydagBycagBycagBycadBydahGsbahGskafGsca"⟩,
  ⟨0x10000, "mDabaBaDabatDabacDabapDacaoDaBiaEtDafadGseaBtGsdajGsDbBubanGsdabBuBvaBtGsbGrFaa"⟩,
  ⟨0x10280, "BdDcdaBxwpabGrBbGseaBkCijadCiBbBsfaBrElfaBeGhbabGhBkGmeaoGmBqaDcBhBwEzBeEhcakEh"⟩,
  ⟨0x104AA, "gaBkEgeaBkEgeaBoBkiaCaclabclGjbapGjbahGjbacGjbalGjbapGjbahGjbacGjdaCaGdmaLzCzja"⟩,
  ⟨0x10740, "wCzkaiCzyagCwbaBqCwbajCwCragBccabBcbaBsBcbacBcdabBccabBcwfbajfBgEjBfDxiajDxBwa"⟩,
  ⟨0x108E0, "tCbbacCbfafCbBcEpdabEpBaDdfabDdBaFcBmaBgDmyDleauDlcaBuDleCnbacCnfaiCnbadCnbaBdCn"⟩,
  ⟨0x10A36, "cadCneakCnhajCnhaBgEwBgDwBgaBnDheamDhjaCchdahhwErcaiErtEnfaiEnsEohaeEomahEoDca"⟩,
  ⟨0x10C00, "CvEeCdaBzChnaBzChhagChBoEtiakEtgaBmBndaBdBniacBnIaaBfebaBqGobadGocacGoqageiaje"⟩,
  ⟨0x10ED9, "BhageBoFgiaBqFfwaBaEiBmaBczuaxBljaDaqeaBkqjabqCpCtkabCtcazFhhakFhgaCbubasuiaBnDe"⟩,
  ⟨0x11177, "jaDsFabauFelasCpbaBvCpCkahDsbabDsbaeDsbapDsbalDsgaChFdfakFdgaeBtbaiBtcacBtcawBt"⟩,
  ⟨0x11329, "bahBtbacBtbafBtbabGrjBtcacBtcadBtcabBtgabBtfahBtcahBtdafBtlakGgbabGgcabGgbaBmGg"⟩,
  ⟨0x113B6, "bakGgbabGgcabGgbaeGgbakGgbacGgiacGgBdaDoDybafDyBeaCuGbiakGbGkaCcFbcaBmFbBiaCrDo"⟩,
  ⟨0x11645, "lakDoganDptaCgFogakFogauDtBcaBbdcapdeaxdHdaCiBgDwaDfGkmabGkhBfcabBfcaiBfbacBfba"⟩,
  ⟨0x11918, "BeBfbacBfcamBfjakBfCsaiDvcaBuDvcalDvBbaCuGqiaDfFinaqvCfEkhakBeDiaiFaDkaBiFkoakFk"⟩,
  ⟨0x11BFA, "gajobaBtobaookaBdodaBgDicawDibaoDiCvahBrbacBrbaBsBrdabBrbacBrbajBriakBrgagBqba"⟩,
  ⟨0x11D67, "cBqbaBlBqbacBqbagBqhakBqgaBsGeeakGeJmazDfharCmbaBpCmdaBdCmDhabDbpaByFrnabFrBJmGn"⟩,
  ⟨0x1239A, "DyaEhGnbafGnlaHoGnDXkaDvBbnaBQsBjkaFXrBjfaWlCeKDdaCgBwCOsaVxjhaBfDqbakDqeacDq"⟩,
  ⟨0x16A70, "DbGcbakGcgaBekcagkkaCsCfkakCfbahCfbavCffatCfQqaCgCsHqaDnDjfazncaznBsaCxEqeaCfEq"⟩,
  ⟨0x16F88, "harEqCmabFsbEacBzbCqlahBzjaKFwFsScCqBpabCqBfFsDtaElFsMWraeClbahClbacClbabClLbCd"⟩,
  ⟨0x1B120, "dClpabCdBdadCdcabCloaeCliaPgEaDKuaEdBifanBidajBihakBicaeBieGsFVgaJtGsdaQuGsgaxGs"⟩,
  ⟨0x1CED1, "parGspaBuGrcaxGrjaEmGsCiaJmGskaBnGscaCkGsdGrrGsiGrcGshGrBeGseGrCjGsvaCsBuEsauGs"⟩,
  ⟨0x1D2D4, "mauGsmaDjGsjazGsFfaDhGsbaCtGsbacGscabGscacGscaeGsbamGsbabGsbahGsbaCnGsbaeGscaiGs"⟩,
  ⟨0x1D515, "bahGsbaBcGsbaeGsbafGsbabGsdahGsbaNcGscaLgGscaByGsZcEypafEybapEyBQmaBfCwgagCwIfa"⟩,
  ⟨0x1E000, "hBpbarBpcahBpbacBpbafBpfaCkBdBhabBdEiaBtCgdaoCgcakCgeacCgMiaBfGfraCgGlfabGlRwa"⟩,
  ⟨0x1E4D0, "BqDuIgaBrEdeabEdHkaBfFubawFuiacFuIqahBmbaeBmbacBmbapBmbaHpDkcaqDkBpaCybeakbeacb"⟩,
  ⟨0x1E960, "BEfaCqGsCyaCjGsHmaeebaBbebacebabecabebakebaeebabebabegabeeabebabebabebadebaceba"⟩,
  ⟨0x1EE54, "becabebabebabebabebabebacebabecaeebahebaeebaeebabebakebarefadebafebareCaaceKka"⟩,
  ⟨0x1F000, "BsGseaDwGsmapGscapGsbapGsbaBlGskaGsGsCeaBaGsbCdcGsnaBsGseajGshacGsoagGsFyaBLxGs"⟩,
  ⟨0x1F6D9, "darGsdanGsdaIkGsgamGseabGspamGseaCeGsiakGsgaBoGsiaBeGscamGseacGsoajGsBnaNgGsia"⟩,
  ⟨0x1FA60, "oGscanGsdalGsdaCfGsbabGseaqGscamGseakGshaFrGsbaDzGsBNpaCLFcBzBgaGMoBzcaIOcBzca"⟩,
  ⟨0x2CEB0, "LBlBzpaXyBzDQwaUwBzCFyaHHzBzfaMOoBzBOGOdabGsBeaDsGsEyaJgGr"⟩]

/-- The sets of scripts that `extensionRows` refers to, numbered from one. -/
def extensionSets : List (List Nat) := [
  [1, 4, 39, 103, 123, 142, 154, 170], [1, 4, 84, 85, 112, 118, 123, 135, 142], [1, 4],
  [1, 4, 59], [2, 24, 26, 29, 44, 46, 74, 110, 142, 152, 159], [2, 24, 44, 74, 140, 142, 155],
  [2, 74, 159], [4, 39, 103, 123, 142, 154, 170], [4, 142, 154], [4, 142], [4, 154, 170],
  [4, 123], [4, 103], [4, 154], [4, 26], [6, 29, 34, 44, 46, 54, 74, 115, 142, 145, 152],
  [6, 40, 41], [7, 22, 26, 34, 36, 40, 41, 42, 44, 46, 51, 74, 81, 82, 115, 129], [7, 108],
  [7, 22, 40, 59, 71, 81, 125], [12, 29, 30, 74, 79, 155, 161],
  [12, 30, 45, 47, 49, 69, 74, 91, 99, 102, 109, 130, 147, 151, 157],
  [12, 30, 45, 47, 49, 69, 74, 91, 102, 109, 147, 151, 157],
  [12, 30, 32, 42, 43, 45, 47, 49, 69, 82, 91, 99, 107, 109, 133, 134, 141, 144, 147, 151, 157],
  [12, 30, 32, 42, 43, 45, 47, 48, 49, 69, 76, 82, 91, 99, 107, 109, 133, 134, 141, 144, 147, 151, 157],
  [12, 20, 141], [12, 30, 45, 69], [12, 30, 102, 151, 157], [12, 30, 151], [12, 30, 102, 151],
  [12, 30], [12, 30, 130], [12, 30, 102, 130],
  [12, 30, 45, 69, 91, 99, 109, 134, 151, 157, 162], [12], [12, 30, 162], [15, 74],
  [15, 50, 51, 55, 63, 93, 171], [15, 50, 51, 55, 63, 93, 116, 171], [15, 50, 51, 55, 63],
  [15, 50, 51, 55, 63, 93, 156, 171], [15, 50, 51, 55, 63, 79, 93, 156, 171],
  [15, 50, 51, 55, 63, 171], [15, 51], [18, 61], [19, 52, 143, 153], [20, 97, 145],
  [22, 40, 41, 59, 80, 108], [22, 46, 59, 90], [24, 26, 29, 46, 74, 115, 140, 145],
  [24, 29, 46, 74, 110, 140, 145, 159], [24, 29, 74, 152], [24, 29, 74, 110], [24, 74, 145],
  [24, 34, 63, 74, 142, 152], [24, 34, 74, 142], [24, 74, 142], [26, 36, 41, 44, 63, 74],
  [26, 34, 54, 74, 115, 142, 145, 152, 159], [26, 46], [26, 74], [27, 28, 78], [28, 78],
  [28, 77, 78], [29, 46, 74, 115, 152], [29, 74, 159], [29, 115], [29, 41], [29, 74],
  [29, 74, 142], [30, 32, 71, 82], [30], [30, 45, 69], [30, 102, 130], [30, 130],
  [30, 69, 91, 109, 147, 151], [30, 102, 157], [30, 99, 102], [30, 102], [30, 45],
  [30, 45, 69, 162], [30, 45, 74],
  [30, 32, 47, 49, 67, 69, 71, 82, 91, 92, 99, 130, 133, 144, 157, 162],
  [30, 32, 47, 49, 67, 69, 71, 82, 92, 99, 130, 133, 144, 157, 162],
  [30, 32, 47, 49, 67, 71, 82, 92, 133, 144, 157],
  [30, 32, 47, 49, 67, 71, 82, 92, 130, 133, 144, 157], [30, 147], [34, 74, 142], [34],
  [38, 74], [40, 41, 74], [41, 74, 140, 142, 155], [45, 147], [46, 74, 115, 159], [46],
  [47, 67], [49, 96], [51, 148], [51], [51, 55, 63], [51, 74], [55, 63], [62, 74, 97],
  [69, 99, 162], [74, 79], [74, 155], [74, 152], [74, 140], [74, 142], [74, 140, 142],
  [74, 110], [74], [74, 93, 116], [85, 112], [93, 116], [99], [124], [142]]

/-- Runs of code points with one set of script extensions. -/
def extensionRows : List Row := [
  ⟨0x0000, "HbabsTwabvkabBlbadBlbabEbjabEcbabBlBmabBybBzbCabDobfbCgbCnbChbqbEdbDkbCbbCcbEe"⟩,
  ⟨0x030E, "bDmbabEebCobabDqpabCdbCebEfhabEgbEfbabCfbgqabDrcabDrsabEhfabheanEieacCiKjabCpbCq"⟩,
  ⟨0x0485, "cCrbCqJxabrFaabioabibjcabbBgabckalkkaklgabkDvabmYmabwbxrabybzkCtEoakBaEoakDtEoa"⟩,
  ⟨0x0AE6, "kDsJmaoDpJiakEaBGqakBvGvabDnCGladEnCtacBuHvacElbabElBVeabBbbCubBbbCvbCubBcbBdbCw"⟩,
  ⟨0x1CD8, "bBebCxbCybCucCxcCubCxbBfbCzgCubDabBgbDbbCubBheCubBibDcbDdcBfbBjcDcbEmHpacDrCca"⟩,
  ⟨0x1DF8, "bCsbabEoVsabEjBfabdkabBwcabBxFqabDeEZmabCjyabtbukabDleabebabCqQmaqDubabBmbBnbBo"⟩,
  ⟨0x3004, "cabDvbacBpcBqgBrbabBoiBreBokaeBscabBofDybabBoeacDwcDvDlaeDydabDyDmabBrbDyFraqDv"⟩,
  ⟨0x31A0, "BgaBmDvjabDuBwaBoDvCeaBxDvpamDvBzabDvDkazDvkafDvDsaBfDvBRIuabCqFoaiDxLkadDfdDg"⟩,
  ⟨0xA836, "cDhbDibDhHbabBkbabDjCgabDzGeabBtBFPmacnGwabokaboCtacBoKwafBrkabDyBtacDyNoacCkbCl"⟩,
  ⟨0x10103, "eaBtCmdajClQaaBcpDAkabEkDBiabDpbabDpCdacDpETvacDpbabDpCHJwaeDlIPwasDvLRyacDv"⟩]

end SecureSockets.Unicode.Script
