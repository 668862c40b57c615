import SecureSockets.Unicode.Table

namespace SecureSockets.Unicode.Category

/-!
The general categories of the Unicode character database, version 17.0. A run's
class is the place of its category in the list of all categories; code points
after the last run are unassigned.
-/

def rows : List Row := [
  ⟨0x0000, "BgzbwdrbtdrbnbobrbsbrbmcrkicrdscrBaabnbrbobublbuBabbnbsbobsBhzbwbretbvbrbubvbebp"⟩,
  ⟨0x00AC, "bsbBabvbubvbsckbubbcrbubkbebqdkbrxabshaybbsibbabbbabbbabbbabbbabbbabbbabbbabbba"⟩,
  ⟨0x0111, "bbbabbbabbbabbbabbbabbbabbbabbbabbbabbbabbbabbbabbbabbbabbbabbbabbbabbbabbbacbba"⟩,
  ⟨0x013A, "bbbabbbabbbabbbabbbabbbabbbacbbabbbabbbabbbabbbabbbabbbabbbabbbabbbabbbabbbabbba"⟩,
  ⟨0x0163, "bbbabbbabbbabbbabbbabbbabbbabbbabbbabbbabbcabbbabbbadbcabbbabbcabbdacbeabbcabbda"⟩,
  ⟨0x0199, "dbcabbcabbbabbbabbcabbbacbbabbcabbdabbbabbcacbbebadbeebabcbbbabcbbbabcbbbabbbabb"⟩,
  ⟨0x01D1, "babbbabbbabbbabbbabbbacbbabbbabbbabbbabbbabbbabbbabbbabbbacbbabcbbbabbdabbbabbba"⟩,
  ⟨0x01FD, "bbbabbbabbbabbbabbbabbbabbbabbbabbbabbbabbbabbbabbbabbbabbbabbbabbbabbbabbbabbba"⟩,
  ⟨0x0225, "bbbabbbabbbabbbabbbabbbabbbahbcabbcacbbabbeabbbabbbabbbabbbaCrbceBabsdeumdoufdhu"⟩,
  ⟨0x02EC, "bdbubdruEifbabbbabbbdbubabbcBdbddbbrbaeBdcubabrdabBdbabBdcabbrabBdjaBjbbacbdadb"⟩,
  ⟨0x03D8, "babbbabbbabbbabbbabbbabbbabbbabbbabbbabbbabbbafbbabbbsbabbcacbBzaBwbbabbbabbbabb"⟩,
  ⟨0x0466, "babbbabbbabbbabbbabbbabbbabbbabbbabbbabbbabbbabbbabbbabbbvffchbabbbabbbabbbabbba"⟩,
  ⟨0x0493, "bbbabbbabbbabbbabbbabbbabbbabbbabbbabbbabbbabbbabbbabbbabbbabbbabbbabbbabbbabbba"⟩,
  ⟨0x04BB, "bbbabbbabbcabbbabbbabbbabbbabbbabbbacbbabbbabbbabbbabbbabbbabbbabbbabbbabbbabbba"⟩,
  ⟨0x04E5, "bbbabbbabbbabbbabbbabbbabbbabbbabbbabbbabbbabbbabbbabbbabbbabbbabbbabbbabbbabbba"⟩,
  ⟨0x050D, "bbbabbbabbbabbbabbbabbbabbbabbbabbbabbbabbbabbbabbbabbbabbbabbbabbbabbbBdBmacBd"⟩,
  ⟨0x0559, "bdgrBpbbrbmcBdcvbtbBdBtfbmbfbrcfbrcfbrbfiBdBbeeBdeecrlBdgBadscrbtcrcvlfbrbBadr"⟩,
  ⟨0x0620, "BgebdkevfkiercebfDvebrbehfbBabvgfcdcfbvefcekidecvbeorbBdbBabebfBeeBbfcBdDlelfbe"⟩,
  ⟨0x07B2, "oBdkiBhejfcdbvdrbdcBdbfctweefbdjfbddfbdffcBdprbBdzedfcBdbrbBdlefBdyebuhecBafBdjf"⟩,
  ⟨0x08A0, "BpebdyfbBaBgfbgCcebfbgbfbedgifegbfcgbehfkecfcrkibrbdpebfcgbBdiecBdcecBdwebBdhe"⟩,
  ⟨0x09B1, "bBdbedBdeecBdbfbedgefcBdcgcBdcgbfbeiBdbgeBdcebBddecfcBdkicectgkbvbtbebrbfcBdcfbg"⟩,
  ⟨0x0A04, "bBdgeeBdcecBdwebBdhebBdcebBdcebBdcecBdbfbBddgcfeBdcfcBddfdBdbfhBdeebBdbehBdkicf"⟩,
  ⟨0x0A72, "debfbrkBdcfbgbBdjebBddebBdwebBdhebBdcebBdfecBdbfbedgffbBdcfbgbBdcgbfcBdbepBdcecf"⟩,
  ⟨0x0AE4, "cBdkibrbthBdbegfbBdbfcgbBdiecBdcecBdwebBdhebBdcebBdfecBdbfbebgbfbgefcBdcgcBdcgbf"⟩,
  ⟨0x0B4E, "hBdcfbgeBdcebBddecfcBdkibvbegkkBdbfbebBdgedBddebBdeedBdcebBdbebBdcedBdcedBddedBd"⟩,
  ⟨0x0BAE, "meeBdcgbfcgdBddgbBddgbfcBdbegBdbgoBdkidkgvbtbvfBdbfdgbfiebBddebBdxebBdqecBdbfbe"⟩,
  ⟨0x0C3E, "dfegbBddfbBdefhBdcfbBddebBdcecBdcecfcBdkihBdbrhkbvbebfcgbriebBddebBdxebBdkebBdfe"⟩,
  ⟨0x0CBA, "cBdbfbebgbffgbBdbfcgbBdcgcfhBdcgfBddebBdcecfcBdkibBdcebgmBdcfcgjebBddebBdBpecfbe"⟩,
  ⟨0x0D3E, "dgefbBddgbBddgbfbebveBddebghkdecfcBdkijkbvgebBdbfcgbBdsedBdyebBdjebBdbecBdhedBd"⟩,
  ⟨0x0DCA, "bfeBddgdfbBdbfbBdiggBdkicBdcgbrmBdBwebfcehfeBdbtgebdifbrkicrBlBdcebBdbebBdfebBd"⟩,
  ⟨0x0E8C, "yebBdbebBdkebfcejfbecBdfebBdbdbBdhfbBdkicBdeeBgBdbedvprbvbrdvcfgvkikkbvbfbvbfbv"⟩,
  ⟨0x0F39, "bfbnbobnbocgiebBdBkeeBdofbgffbrcffelfbBdBkfbBdivbfgvbBdcvfrevcrBlBdBrecgefbggfbg"⟩,
  ⟨0x1039, "cfcgcfbekigrgecgcfeedfbedgcehgdeefnebfcgcfggbfbebgkidgbfcvBmabBdbafBdbacBdBrbbr"⟩,
  ⟨0x10FC, "bddbMrebBdeecBdhebBdbebBdeecBdBpebBdeecBdBhebBdeecBdhebBdbebBdeecBdpebBdCfebBdee"⟩,
  ⟨0x1316, "cBdCpecBddfjrukdBdqekvgBdDiacBdgbcBdbmXwebvbrrebwBaebnbodBdCxedrdjiehBdsedfbgjBd"⟩,
  ⟨0x171F, "tecfbgcrjBdsecfmBdnebBddebBdcfmBdCaecfbghfigbfcglfdrbddrbtbebfcBdkigBdkkgBdgrbm"⟩,
  ⟨0x1807, "erdfbBabfkigBdBjebdCbehBdfecfBiebfbefBdCsekBdBfebBddfegcfdgeBdcgbfggdfeBdbvdBdcr"⟩,
  ⟨0x1946, "kiBeecBdfelBdBseeBdBaegBdkibkdBdBivxecfcgbfcBdcrCbebgbfbghfbBdbfbgbfcgifggkfcBd"⟩,
  ⟨0x1A7F, "bfkigBdkigBdhrbdgrcBdofbhBffcBdmfuBdefbgBvebfbgffbgbffgbfcgiebBdcrkihrkvjfjvdrcf"⟩,
  ⟨0x1B82, "bgBeebgefcgcfbgdfcekiBsebfbgcfdgbfbgdfcgiBderBkeigifcgcfdBdfrkidBddekiBeegdcrjb"⟩,
  ⟨0x1C89, "babbfBdBracBddairiBddfbrnfbghfeebfgebfcebgcfbefBdBsbCldnbbdBibBldCmfbabbbabbbabb"⟩,
  ⟨0x1E06, "babbbabbbabbbabbbabbbabbbabbbabbbabbbabbbabbbabbbabbbabbbabbbabbbabbbabbbabbbabb"⟩,
  ⟨0x1E2E, "babbbabbbabbbabbbabbbabbbabbbabbbabbbabbbabbbabbbabbbabbbabbbabbbabbbabbbabbbabb"⟩,
  ⟨0x1E56, "babbbabbbabbbabbbabbbabbbabbbabbbabbbabbbabbbabbbabbbabbbabbbabbbabbbabbbabbbabb"⟩,
  ⟨0x1E7E, "babbbabbbabbbabbbabbbabbbabbbabbbabbbabbbabbbajbbabbbabbbabbbabbbabbbabbbabbbabb"⟩,
  ⟨0x1EAE, "babbbabbbabbbabbbabbbabbbabbbabbbabbbabbbabbbabbbabbbabbbabbbabbbabbbabbbabbbabb"⟩,
  ⟨0x1ED6, "babbbabbbabbbabbbabbbabbbabbbabbbabbbabbbabbbabbbabbbabbbabbbabbbabbbabbbabbbabb"⟩,
  ⟨0x1EFE, "bajbiagbcBdgacBdibiaibiagbcBdgacBdibbBdbabBdbabBdbabBdbaibiaobcBdibicibicibicfb"⟩,
  ⟨0x1FB5, "bBdcbeabcbubbdudbbBdcbeabcduebcBdcbeabBdduibfaducBddbbBdcbeabccubBdlwfBagmcrbpbq"⟩,
  ⟨0x201A, "bncpbqbnbpirbxbyfBabwjrbpbqercldrbsbnbolrbsbrblkrbwfBabBdkBabkbdcBdgkdsbnbobdkk"⟩,
  ⟨0x208A, "dsbnbobBdnddBdBitoBdnfehbfdhmfpBdcvbaevbacvbbdacbdabbbvbacvbsfagvbabvbabvbabvea"⟩,
  ⟨0x212E, "bvbbeabbeebbcvcbcafsbaebbvbscvbbbvqkBjjbabbejbkcveBdfsfvcsevbscvbscvbshvbsBfvcs"⟩,
  ⟨0x21D0, "cvbsbvbsBfvKisivbnbobnbouvcshvbnboDdvbsBevzsBovgsCuvwBdlvvBdCikDavwkHbvbsjvbsCcv"⟩,
  ⟨0x25F8, "isEhvbsJovbnbobnbobnbobnbobnbobnbobnboBekBsvfsbnboBfsbnbobnbobnbobnbobnboqsJwv"⟩,
  ⟨0x2900, "FbsbnbobnbobnbobnbobnbobnbobnbobnbobnbobnbobnboClsbnbobnboBgsbnboJysBwvvscvgsBnv"⟩,
  ⟨0x2B74, "cBdFivBwaBwbbabbdacbbabbbabbbabbeabbbacbbagbcddabbbabbbabbbabbbabbbabbbabbbabbba"⟩,
  ⟨0x2C91, "bbbabbbabbbabbbabbbabbbabbbabbbabbbabbbabbbabbbabbbabbbabbbabbbabbbabbbabbbabbba"⟩,
  ⟨0x2CB9, "bbbabbbabbbabbbabbbabbbabbbabbbabbbabbbabbbabbbabbbabbbabbbabbbabbbabbbabbbabbba"⟩,
  ⟨0x2CE1, "bbbacbgvbabbbabbdfbabbfBderbkcrBmbbBdbbfBdbbcBdCeehBdbdbroBdbfxejBdhebBdhebBdhe"⟩,
  ⟨0x2DB7, "bBdhebBdhebBdhebBdhebBdhebBdBgfcrbpbqbpbqdrbpbqbrbpbqjrbmcrbmbrbpbqcrbpbqbnbobn"⟩,
  ⟨0x2E25, "bobnbobnbofrbdkrcmerbmbrbnnrcvdrbnbobnbobnbobnbobmBiBdBavbBdDlvmBdIgvBaBdqvbwdr"⟩,
  ⟨0x3004, "bvbdbebjbnbobnbobnbobnbobnbocvbnbobnbobnbobnbobmbncobvjjefcgbmfdcvdjbdbebrcvbBd"⟩,
  ⟨0x3041, "DiecBdcfcucdbebmDmebrddbefBdBrebBdDqebBdcvekkvBgeBmvjBdbvqeBfvbBdkkBevikbvpkBgv"⟩,
  ⟨0x3280, "kkBnvpkMivJToeCmvBFCfebdBRzedBdCdvjBdBoegdcrKiebddrqekiceuBdbabbbabbbabbbabbbabb"⟩,
  ⟨0xA64A, "babbbabbbabbbabbbabbbabbbabbbabbbabbbabbbabbbabbbabbbabbbabbbabbbabbbabbbebfdhbr"⟩,
  ⟨0xA674, "kfbrbdbabbbabbbabbbabbbabbbabbbabbbabbbabbbabbbabbbabbbabbbabbcdcfCsekjcfgriBdxu"⟩,
  ⟨0xA717, "jdcubabbbabbbabbbabbbabbbabbbadbbabbbabbbabbbabbbabbbabbbabbbabbbabbbabbbabbbabb"⟩,
  ⟨0xA74A, "babbbabbbabbbabbbabbbabbbabbbabbbabbbabbbabbbabbbabbbabbbabbbabbbabbbabbbabbbdib"⟩,
  ⟨0xA779, "babbbabbcabbbabbbabbbabbbabbbdcubabbbabbbebabbbadbbabbbabbbabbbabbbabbbabbbabbba"⟩,
  ⟨0xA7A5, "bbbabbbabbfabbfabbbabbbabbbabbbabbbabbbabbbabbeabbbabbcabbbabbbabbbabbbabbbabbba"⟩,
  ⟨0xA7D9, "bbbabbbauBdedbabbbecdbbhebfdebfeebfxecgcfbgevbfdBdgkcvbtbvgBdCaeeriBdcgByeqgcf"⟩,
  ⟨0xA8C6, "iBdcrkigBdsfgedrbebrcebfkiBceifcrxelfcglBdbrBdedBddfbgBvebfcgefcgcfdgnrbBdbdki"⟩,
  ⟨0xA9DA, "eBdcrfebfbdjekifebBdBpegfcgcfcgcfjBddebfiebfbgcBdkicBderqebdgedvbebgbfbgByebfbe"⟩,
  ⟨0xAAB2, "dfcecffecfbebfbeyBdcebdcrlebgcfcgcrbecdbgbfkBdgecBdgecBdgejBdhebBdhebBdBrbbuedjb"⟩,
  ⟨0xAB69, "bdcueBdDcbBjecgbfcgbfcgbrbgbfcBdkigBdQNsemBdxeeBdBxeeBdDAuBbJMeBcOcecBdEceBmBdhb"⟩,
  ⟨0xFB07, "mBdfbfBdbebfkebsnebBdfebBdbebBdcebBdcebBdEeeruqvNzebobnqvCmecvCceivBgBdmebtdvqf"⟩,
  ⟨0xFE10, "hrbnbobrgBdqfbrcmclbnbobnbobnbobnbobnbobnbobnbobnbocrbnboerdldrbBderbmbnbobnbobn"⟩,
  ⟨0xFE5E, "bodrbsbmdsbBdbrbtcreBdfebBdFfecBdbBabBddrbtdrbnbobrbsbrbmcrkicrdscrBaabnbrbobubl"⟩,
  ⟨0xFF40, "buBabbnbsbobsbnbobrbnbocrkebdBtecdBfedBdgecBdgecBdgecBddedBdctbsbubvctbBdbvescv"⟩,
  ⟨0xFFEF, "kBddBacvcBdmebBdBaebBdtebBdcebBdpecBdoeBiBdEtefBddreBdBtkdBdjvCbjekrvckdvbBdnv"⟩,
  ⟨0x1019D, "dBdbvBvBdBtvbfFaBdBdedBdBxepBdbfBbkeBdBgeekjBduebjiebjfBdBmefffBdBeebBdbrBkeeBd"⟩,
  ⟨0x103C8, "iebrfjBqBdBoaBobDaecBdkigBdBkaeBdBkbeBdBoeiBdCaelBdbrlabBdpabBdhabBdcabBdlbbBdpb"⟩,
  ⟨0x105B2, "bBdhbbBdcbdBdCaemBdLzejBdwekBdieyBdgdbBdBqdbBdjdCrBdgecBdbebBdBsebBdcedBdbecBdxe"⟩,
  ⟨0x10856, "bBdbrikxecvhkBfeiBdjkBwBdtebBdcefBdfkwegkdBdbrBaefBdbrBaeBmBdCeeeBdckceqkcBdBuk"⟩,
  ⟨0x10A00, "bedfbBdcffBdefeebBddebBdBdecBddfeBdbfjkhBdjrhBdBdeckbrBdedkBgBdiebvBcecfeBdfkhr"⟩,
  ⟨0x10AF7, "jBdCcedBdhrwecBdiktefBdiksehBdermBdhkDcBdCveCdBdBzanBdBzbhBdgkBkeefiBdkigBdkiee"⟩,
  ⟨0x10D4E, "bdbewadBdffbmbdwbiBdcsIaBdBfkbBdBqebBdcfbmcBdceqBddebdceiBdbrivBhBdgfBdekkbeiBd"⟩,
  ⟨0x10F30, "welfekfrwBdseeferBmBdvehkuBdxejBdbgbfbgCbepfhreBdukkibfcecfbejBddfbgBtedgefcgcf"⟩,
  ⟨0x110BB, "crbBaerbfkBdbBacBdzehBdkigBddfBkeffbgifbBdkierbecgbeiBdBjebfcrbejBdcfbgBwedgjfcg"⟩,
  ⟨0x111C1, "eeerefbrbgbfkibebrbedrbBduklBdsebBdzedgdfcgbfbgcfgrbfcebfCkBdhebBdbebBdeebBdpe"⟩,
  ⟨0x1129E, "bBdkebrgBdBvebfdgiffBdkigBdcfcgbBdiecBdcecBdwebBdhebBdcebBdfebBdcfbecgbfegcBdcg"⟩,
  ⟨0x11349, "cBddgcBdbegBdbgfBdfecgcBdhfdBdfflBdkebBdbecBdbebBdBmebBdbedggfbBdbgcBdbgbBdegbBd"⟩,
  ⟨0x113CC, "cgbfbgbfbebfbecrbBdcriBdcfBdBdCbedgifcgdfbgbfeefrkicrbBdbrbfdeBeBdBwedggfbgbfeg"⟩,
  ⟨0x114BF, "cfbgcfcebrbeiBdkiGkBdBvedgefcBdegcfbgcfxreecfBiBdBwedgifcgbfbgcfdrbelBdkigBdnr"⟩,
  ⟨0x1166D, "tBdBrebfbgbfcggfbgbfbebrgBdkigBduiBcBdBbecBdbfbgbfcgefbgffeBdkickdrbvheHdBdBsedg"⟩,
  ⟨0x1182F, "jfbgcfbrDwBdBgaBgbkijkmBdiecBdbecBdiebBdcebBdyeggbBdcgcBdcfbgbfbebgbebgbfdrjBdki"⟩,
  ⟨0x1195A, "CsBdiecBdBnedgefcBdcfegbfbebrbebgBbBdbekfBoegfbgbeefirbfiBdbegfcgdfBuenfbgcfdrbe"⟩,
  ⟨0x11A9E, "frnBdCvehBdkrDiBdbfbgdfbgbfbgDkBdBhebroBdkigBdjebBdBlebghfbBdgfbgbfbefrkBdkitk"⟩,
  ⟨0x11C6D, "dBdcrBeecBdwfbBdbghfbgcfbgcfCvBdhebBdcebBdBmegfdBdbfbBdcfbBdhfbebfiBdkigBdgebBd"⟩,
  ⟨0x11D67, "cebBdBgefgbBdcfbBdcgbfbgbfbehBdkigBdBpebdceeBdkiJmBdtecfcgcrhBdcfbebgnebBdBiecg"⟩,
  ⟨0x11F36, "ffdBdcgbfbgbfnrkibfDhBdbepBdvkivetrvnBdbrBJmeDyBdEhjbBdfrlBdHoeDXkBdDtecrnBdBPge"⟩,
  ⟨0x13430, "qBabfgepfkBdFXrefBdWleKDdBdBeemfdgdfkiCOsBdVxehBdBfebBdkieBdcrDbebBdkigBdBeecBd"⟩,
  ⟨0x16AF0, "ffbrkBdBwehffrevedbrbvkBdkibBdhkbBdvefBdteQqBdddBoecddrkiHqBdBgaBgbxkerfBdzacBd"⟩,
  ⟨0x16EBB, "zbBsBdCxeeBdbfbeCdghBdefndCmBdcdbrbdbflBdcgcddjjBdKXyeBpBdBgeDtBdEleMWrBdedbBdhd"⟩,
  ⟨0x1AFFC, "bBdcdbBdLfepBdbeBdBddecBdbeoBdeeiBdPgeDKuBdEdefBdnedBdjehBdkecBdbvcfbreBaFVgBd"⟩,
  ⟨0x1CC00, "JgvkidvdBdQuvgBdxvpBdqvbspBdBufcBdxfjBdEmvCiBdJmvkBdBnvcBdCivcgdfdvggiBaifcvhf"⟩,
  ⟨0x1D18C, "BevefCjvvBdCovdfbvEsBdukmBdukmBdDjvjBdzkFfBdBaaBabBaahbbBdsbBaaBabbabBdcacBdba"⟩,
  ⟨0x1D4A3, "cBdcacBdeabBdiaebbBdbbbBdhbbBdlbBaaBabcabBdeacBdiabBdhabBdBabcabBdeabBdfabBdba"⟩,
  ⟨0x1D547, "dBdhabBdBabBaaBabBaaBabBaaBabBaaBabBaaBabBaaBcbcBdzabszbbsgbzabszbbsgbzabszbbsgb"⟩,
  ⟨0x1D756, "zabszbbsgbzabszbbsgbbabbcBdByiTsvCdfevByfivbfovbfcvfrpBdffbBdpfBQmBdkbbeubgBdgb"⟩,
  ⟨0x1DF2B, "IfBdhfbBdrfcBdhfbBdcfbBdfffBdCkdBhBdbfEiBdBtedBdhfhdcBdkieBdbebvMiBdBeebfrBdBse"⟩,
  ⟨0x1E2EC, "efkifBdbtRwBdBbebdefkiIgBdBeecfbekieBdbrHkBdBfebBddebfcebfhecffebfiBdbebdIqBdhe"⟩,
  ⟨0x1E7E7, "bBdeebBdcebBdpebBdHpecBdjkhfBpBdBiaBibhfbdeBdkieBdcrBEfBdChkbvdkbtekCyBdBtkbvpk"⟩,
  ⟨0x1ED3E, "HmBdeebBdBbebBdcebBdbecBdbebBdkebBdeebBdbebBdbegBdbeeBdbebBdbebBdbebBddebBdcebBd"⟩,
  ⟨0x1EE54, "becBdbebBdbebBdbebBdbebBdbebBdcebBdbecBdeebBdhebBdeebBdeebBdbebBdkebBdrefBddebBd"⟩,
  ⟨0x1EEA5, "febBdreCaBdcsKkBdBsveBdDwvmBdpvcBdpvbBdpvbBdBlvkBdnkGfvCeBdBdvnBdBsveBdjvhBdcv"⟩,
  ⟨0x1F252, "oBdgvFyBdJrvfuBCbvdBdrvdBdnvdBdIkvgBdmveBdbvpBdmveBdCeviBdkvgBdBoviBdBevcBdmveBd"⟩,
  ⟨0x1F8C0, "cvoBdjsBnBdNgviBdovcBdnvdBdlvdBdCfvbBdbveBdqvcBdmveBdkvhBdFrvbBdDovkibvBNpBd"⟩,
  ⟨0x20000, "CLFceBgBdGMoecBdIOcecBdLBlepBdXyeDQwBdUweCFyBdHHzefBdMOoeBOGOdBdbBaBeBdDsBaEyBd"⟩,
  ⟨0xE0100, "JgfDSFoBdDSYoBccBdDSYoBc"⟩]

end SecureSockets.Unicode.Category
