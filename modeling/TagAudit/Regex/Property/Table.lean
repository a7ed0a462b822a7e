import TagAudit.Text.Search

/-!
# Names of character properties

The names of the properties of characters and of their values, long and short, in the spelling in
which they are looked up: in capitals, without blanks, hyphens and underscores.
-/

namespace TagAudit.Regex

/-- The words of some lines. -/
def wordsOf (lines : List String) : List String :=
  lines.flatMap fun line => (Text.splitAt (· == ' ') line.toList).map String.ofList

/-- The blocks of code points. -/
def blocks : List String := wordsOf [
  "ADLAM AEGEANNUMBERS AHOM ALCHEMICAL ALCHEMICALSYMBOLS ALPHABETICPF",
  "ALPHABETICPRESENTATIONFORMS ANATOLIANHIEROGLYPHS ANCIENTGREEKMUSIC",
  "ANCIENTGREEKMUSICALNOTATION ANCIENTGREEKNUMBERS ANCIENTSYMBOLS ARABIC ARABICEXTA",
  "ARABICEXTENDEDA ARABICEXTB ARABICEXTENDEDB ARABICEXTC ARABICEXTENDEDC ARABICMATH",
  "ARABICMATHEMATICALALPHABETICSYMBOLS ARABICPFA ARABICPRESENTATIONFORMSA ARABICPFB",
  "ARABICPRESENTATIONFORMSB ARABICSUP ARABICSUPPLEMENT ARMENIAN ARROWS ASCII BASICLATIN AVESTAN",
  "BALINESE BAMUM BAMUMSUP BAMUMSUPPLEMENT BASSAVAH BATAK BENGALI BHAIKSUKI BLOCKELEMENTS",
  "BOPOMOFO BOPOMOFOEXT BOPOMOFOEXTENDED BOXDRAWING BRAHMI BRAILLE BRAILLEPATTERNS BUGINESE",
  "BUHID BYZANTINEMUSIC BYZANTINEMUSICALSYMBOLS CARIAN CAUCASIANALBANIAN CHAKMA CHAM CHEROKEE",
  "CHEROKEESUP CHEROKEESUPPLEMENT CHESSSYMBOLS CHORASMIAN CJK CJKUNIFIEDIDEOGRAPHS CJKCOMPAT",
  "CJKCOMPATIBILITY CJKCOMPATFORMS CJKCOMPATIBILITYFORMS CJKCOMPATIDEOGRAPHS",
  "CJKCOMPATIBILITYIDEOGRAPHS CJKCOMPATIDEOGRAPHSSUP CJKCOMPATIBILITYIDEOGRAPHSSUPPLEMENT",
  "CJKEXTA CJKUNIFIEDIDEOGRAPHSEXTENSIONA CJKEXTB CJKUNIFIEDIDEOGRAPHSEXTENSIONB CJKEXTC",
  "CJKUNIFIEDIDEOGRAPHSEXTENSIONC CJKEXTD CJKUNIFIEDIDEOGRAPHSEXTENSIOND CJKEXTE",
  "CJKUNIFIEDIDEOGRAPHSEXTENSIONE CJKEXTF CJKUNIFIEDIDEOGRAPHSEXTENSIONF CJKEXTG",
  "CJKUNIFIEDIDEOGRAPHSEXTENSIONG CJKEXTH CJKUNIFIEDIDEOGRAPHSEXTENSIONH CJKRADICALSSUP",
  "CJKRADICALSSUPPLEMENT CJKSTROKES CJKSYMBOLS CJKSYMBOLSANDPUNCTUATION COMPATJAMO",
  "HANGULCOMPATIBILITYJAMO CONTROLPICTURES COPTIC COPTICEPACTNUMBERS COUNTINGROD",
  "COUNTINGRODNUMERALS CUNEIFORM CUNEIFORMNUMBERS CUNEIFORMNUMBERSANDPUNCTUATION",
  "CURRENCYSYMBOLS CYPRIOTSYLLABARY CYPROMINOAN CYRILLIC CYRILLICEXTA CYRILLICEXTENDEDA",
  "CYRILLICEXTB CYRILLICEXTENDEDB CYRILLICEXTC CYRILLICEXTENDEDC CYRILLICEXTD CYRILLICEXTENDEDD",
  "CYRILLICSUP CYRILLICSUPPLEMENT CYRILLICSUPPLEMENTARY DESERET DEVANAGARI DEVANAGARIEXT",
  "DEVANAGARIEXTENDED DEVANAGARIEXTA DEVANAGARIEXTENDEDA DIACRITICALS COMBININGDIACRITICALMARKS",
  "DIACRITICALSEXT COMBININGDIACRITICALMARKSEXTENDED DIACRITICALSFORSYMBOLS",
  "COMBININGDIACRITICALMARKSFORSYMBOLS COMBININGMARKSFORSYMBOLS DIACRITICALSSUP",
  "COMBININGDIACRITICALMARKSSUPPLEMENT DINGBATS DIVESAKURU DOGRA DOMINO DOMINOTILES DUPLOYAN",
  "EARLYDYNASTICCUNEIFORM EGYPTIANHIEROGLYPHFORMATCONTROLS EGYPTIANHIEROGLYPHS ELBASAN ELYMAIC",
  "EMOTICONS ENCLOSEDALPHANUM ENCLOSEDALPHANUMERICS ENCLOSEDALPHANUMSUP",
  "ENCLOSEDALPHANUMERICSUPPLEMENT ENCLOSEDCJK ENCLOSEDCJKLETTERSANDMONTHS",
  "ENCLOSEDIDEOGRAPHICSUP ENCLOSEDIDEOGRAPHICSUPPLEMENT ETHIOPIC ETHIOPICEXT ETHIOPICEXTENDED",
  "ETHIOPICEXTA ETHIOPICEXTENDEDA ETHIOPICEXTB ETHIOPICEXTENDEDB ETHIOPICSUP ETHIOPICSUPPLEMENT",
  "GEOMETRICSHAPES GEOMETRICSHAPESEXT GEOMETRICSHAPESEXTENDED GEORGIAN GEORGIANEXT",
  "GEORGIANEXTENDED GEORGIANSUP GEORGIANSUPPLEMENT GLAGOLITIC GLAGOLITICSUP",
  "GLAGOLITICSUPPLEMENT GOTHIC GRANTHA GREEK GREEKANDCOPTIC GREEKEXT GREEKEXTENDED GUJARATI",
  "GUNJALAGONDI GURMUKHI HALFANDFULLFORMS HALFWIDTHANDFULLWIDTHFORMS HALFMARKS",
  "COMBININGHALFMARKS HANGUL HANGULSYLLABLES HANIFIROHINGYA HANUNOO HATRAN HEBREW",
  "HIGHPUSURROGATES HIGHPRIVATEUSESURROGATES HIGHSURROGATES HIRAGANA IDC",
  "IDEOGRAPHICDESCRIPTIONCHARACTERS IDEOGRAPHICSYMBOLS IDEOGRAPHICSYMBOLSANDPUNCTUATION",
  "IMPERIALARAMAIC INDICNUMBERFORMS COMMONINDICNUMBERFORMS INDICSIYAQNUMBERS",
  "INSCRIPTIONALPAHLAVI INSCRIPTIONALPARTHIAN IPAEXT IPAEXTENSIONS JAMO HANGULJAMO JAMOEXTA",
  "HANGULJAMOEXTENDEDA JAMOEXTB HANGULJAMOEXTENDEDB JAVANESE KAITHI KAKTOVIKNUMERALS KANAEXTA",
  "KANAEXTENDEDA KANAEXTB KANAEXTENDEDB KANASUP KANASUPPLEMENT KANBUN KANGXI KANGXIRADICALS",
  "KANNADA KATAKANA KATAKANAEXT KATAKANAPHONETICEXTENSIONS KAWI KAYAHLI KHAROSHTHI",
  "KHITANSMALLSCRIPT KHMER KHMERSYMBOLS KHOJKI KHUDAWADI LAO LATIN1SUP LATIN1SUPPLEMENT LATIN1",
  "LATINEXTA LATINEXTENDEDA LATINEXTADDITIONAL LATINEXTENDEDADDITIONAL LATINEXTB LATINEXTENDEDB",
  "LATINEXTC LATINEXTENDEDC LATINEXTD LATINEXTENDEDD LATINEXTE LATINEXTENDEDE LATINEXTF",
  "LATINEXTENDEDF LATINEXTG LATINEXTENDEDG LEPCHA LETTERLIKESYMBOLS LIMBU LINEARA",
  "LINEARBIDEOGRAMS LINEARBSYLLABARY LISU LISUSUP LISUSUPPLEMENT LOWSURROGATES LYCIAN LYDIAN",
  "MAHAJANI MAHJONG MAHJONGTILES MAKASAR MALAYALAM MANDAIC MANICHAEAN MARCHEN MASARAMGONDI",
  "MATHALPHANUM MATHEMATICALALPHANUMERICSYMBOLS MATHOPERATORS MATHEMATICALOPERATORS",
  "MAYANNUMERALS MEDEFAIDRIN MEETEIMAYEK MEETEIMAYEKEXT MEETEIMAYEKEXTENSIONS MENDEKIKAKUI",
  "MEROITICCURSIVE MEROITICHIEROGLYPHS MIAO MISCARROWS MISCELLANEOUSSYMBOLSANDARROWS",
  "MISCMATHSYMBOLSA MISCELLANEOUSMATHEMATICALSYMBOLSA MISCMATHSYMBOLSB",
  "MISCELLANEOUSMATHEMATICALSYMBOLSB MISCPICTOGRAPHS MISCELLANEOUSSYMBOLSANDPICTOGRAPHS",
  "MISCSYMBOLS MISCELLANEOUSSYMBOLS MISCTECHNICAL MISCELLANEOUSTECHNICAL MODI MODIFIERLETTERS",
  "SPACINGMODIFIERLETTERS MODIFIERTONELETTERS MONGOLIAN MONGOLIANSUP MONGOLIANSUPPLEMENT MRO",
  "MULTANI MUSIC MUSICALSYMBOLS MYANMAR MYANMAREXTA MYANMAREXTENDEDA MYANMAREXTB",
  "MYANMAREXTENDEDB NABATAEAN NAGMUNDARI NANDINAGARI NB NOBLOCK NEWA NEWTAILUE NKO NUMBERFORMS",
  "NUSHU NYIAKENGPUACHUEHMONG OCR OPTICALCHARACTERRECOGNITION OGHAM OLCHIKI OLDHUNGARIAN",
  "OLDITALIC OLDNORTHARABIAN OLDPERMIC OLDPERSIAN OLDSOGDIAN OLDSOUTHARABIAN OLDTURKIC",
  "OLDUYGHUR ORIYA ORNAMENTALDINGBATS OSAGE OSMANYA OTTOMANSIYAQNUMBERS PAHAWHHMONG PALMYRENE",
  "PAUCINHAU PHAGSPA PHAISTOS PHAISTOSDISC PHOENICIAN PHONETICEXT PHONETICEXTENSIONS",
  "PHONETICEXTSUP PHONETICEXTENSIONSSUPPLEMENT PLAYINGCARDS PSALTERPAHLAVI PUA PRIVATEUSEAREA",
  "PRIVATEUSE PUNCTUATION GENERALPUNCTUATION REJANG RUMI RUMINUMERALSYMBOLS RUNIC SAMARITAN",
  "SAURASHTRA SHARADA SHAVIAN SHORTHANDFORMATCONTROLS SIDDHAM SINHALA SINHALAARCHAICNUMBERS",
  "SMALLFORMS SMALLFORMVARIANTS SMALLKANAEXT SMALLKANAEXTENSION SOGDIAN SORASOMPENG SOYOMBO",
  "SPECIALS SUNDANESE SUNDANESESUP SUNDANESESUPPLEMENT SUPARROWSA SUPPLEMENTALARROWSA",
  "SUPARROWSB SUPPLEMENTALARROWSB SUPARROWSC SUPPLEMENTALARROWSC SUPERANDSUB",
  "SUPERSCRIPTSANDSUBSCRIPTS SUPMATHOPERATORS SUPPLEMENTALMATHEMATICALOPERATORS SUPPUAA",
  "SUPPLEMENTARYPRIVATEUSEAREAA SUPPUAB SUPPLEMENTARYPRIVATEUSEAREAB SUPPUNCTUATION",
  "SUPPLEMENTALPUNCTUATION SUPSYMBOLSANDPICTOGRAPHS SUPPLEMENTALSYMBOLSANDPICTOGRAPHS",
  "SUTTONSIGNWRITING SYLOTINAGRI SYMBOLSANDPICTOGRAPHSEXTA SYMBOLSANDPICTOGRAPHSEXTENDEDA",
  "SYMBOLSFORLEGACYCOMPUTING SYRIAC SYRIACSUP SYRIACSUPPLEMENT TAGALOG TAGBANWA TAGS TAILE",
  "TAITHAM TAIVIET TAIXUANJING TAIXUANJINGSYMBOLS TAKRI TAMIL TAMILSUP TAMILSUPPLEMENT TANGSA",
  "TANGUT TANGUTCOMPONENTS TANGUTSUP TANGUTSUPPLEMENT TELUGU THAANA THAI TIBETAN TIFINAGH",
  "TIRHUTA TOTO TRANSPORTANDMAP TRANSPORTANDMAPSYMBOLS UCAS UNIFIEDCANADIANABORIGINALSYLLABICS",
  "CANADIANSYLLABICS UCASEXT UNIFIEDCANADIANABORIGINALSYLLABICSEXTENDED UCASEXTA",
  "UNIFIEDCANADIANABORIGINALSYLLABICSEXTENDEDA UGARITIC VAI VEDICEXT VEDICEXTENSIONS",
  "VERTICALFORMS VITHKUQI VS VARIATIONSELECTORS VSSUP VARIATIONSELECTORSSUPPLEMENT WANCHO",
  "WARANGCITI YEZIDI YIJING YIJINGHEXAGRAMSYMBOLS YIRADICALS YISYLLABLES ZANABAZARSQUARE",
  "ZNAMENNYMUSIC ZNAMENNYMUSICALNOTATION CJKEXTI CJKUNIFIEDIDEOGRAPHSEXTENSIONI",
  "EGYPTIANHIEROGLYPHSEXTA EGYPTIANHIEROGLYPHSEXTENDEDA GARAY GURUNGKHEMA KIRATRAI MYANMAREXTC",
  "MYANMAREXTENDEDC OLONAL SUNUWAR SYMBOLSFORLEGACYCOMPUTINGSUP",
  "SYMBOLSFORLEGACYCOMPUTINGSUPPLEMENT TODHRI TULUTIGALARI"]

/-- The scripts. -/
def scripts : List String := wordsOf [
  "ADLM ADLAM AGHB CAUCASIANALBANIAN AHOM ARAB ARABIC ARMI IMPERIALARAMAIC ARMN ARMENIAN AVST",
  "AVESTAN BALI BALINESE BAMU BAMUM BASS BASSAVAH BATK BATAK BENG BENGALI BHKS BHAIKSUKI BOPO",
  "BOPOMOFO BRAH BRAHMI BRAI BRAILLE BUGI BUGINESE BUHD BUHID CAKM CHAKMA CANS",
  "CANADIANABORIGINAL CARI CARIAN CHAM CHER CHEROKEE CHRS CHORASMIAN COPT COPTIC QAAC CPMN",
  "CYPROMINOAN CPRT CYPRIOT CYRL CYRILLIC DEVA DEVANAGARI DIAK DIVESAKURU DOGR DOGRA DSRT",
  "DESERET DUPL DUPLOYAN EGYP EGYPTIANHIEROGLYPHS ELBA ELBASAN ELYM ELYMAIC ETHI ETHIOPIC GEOR",
  "GEORGIAN GLAG GLAGOLITIC GONG GUNJALAGONDI GONM MASARAMGONDI GOTH GOTHIC GRAN GRANTHA GREK",
  "GREEK GUJR GUJARATI GURU GURMUKHI HANG HANGUL HANI HAN HANO HANUNOO HATR HATRAN HEBR HEBREW",
  "HIRA HIRAGANA HLUW ANATOLIANHIEROGLYPHS HMNG PAHAWHHMONG HMNP NYIAKENGPUACHUEHMONG HRKT",
  "KATAKANAORHIRAGANA HUNG OLDHUNGARIAN ITAL OLDITALIC JAVA JAVANESE KALI KAYAHLI KANA KATAKANA",
  "KAWI KHAR KHAROSHTHI KHMR KHMER KHOJ KHOJKI KITS KHITANSMALLSCRIPT KNDA KANNADA KTHI KAITHI",
  "LANA TAITHAM LAOO LAO LATN LATIN LEPC LEPCHA LIMB LIMBU LINA LINEARA LINB LINEARB LISU LYCI",
  "LYCIAN LYDI LYDIAN MAHJ MAHAJANI MAKA MAKASAR MAND MANDAIC MANI MANICHAEAN MARC MARCHEN MEDF",
  "MEDEFAIDRIN MEND MENDEKIKAKUI MERC MEROITICCURSIVE MERO MEROITICHIEROGLYPHS MLYM MALAYALAM",
  "MODI MONG MONGOLIAN MROO MRO MTEI MEETEIMAYEK MULT MULTANI MYMR MYANMAR NAGM NAGMUNDARI NAND",
  "NANDINAGARI NARB OLDNORTHARABIAN NBAT NABATAEAN NEWA NKOO NKO NSHU NUSHU OGAM OGHAM OLCK",
  "OLCHIKI ORKH OLDTURKIC ORYA ORIYA OSGE OSAGE OSMA OSMANYA OUGR OLDUYGHUR PALM PALMYRENE PAUC",
  "PAUCINHAU PERM OLDPERMIC PHAG PHAGSPA PHLI INSCRIPTIONALPAHLAVI PHLP PSALTERPAHLAVI PHNX",
  "PHOENICIAN PLRD MIAO PRTI INSCRIPTIONALPARTHIAN RJNG REJANG ROHG HANIFIROHINGYA RUNR RUNIC",
  "SAMR SAMARITAN SARB OLDSOUTHARABIAN SAUR SAURASHTRA SGNW SIGNWRITING SHAW SHAVIAN SHRD",
  "SHARADA SIDD SIDDHAM SIND KHUDAWADI SINH SINHALA SOGD SOGDIAN SOGO OLDSOGDIAN SORA",
  "SORASOMPENG SOYO SOYOMBO SUND SUNDANESE SYLO SYLOTINAGRI SYRC SYRIAC TAGB TAGBANWA TAKR",
  "TAKRI TALE TAILE TALU NEWTAILUE TAML TAMIL TANG TANGUT TAVT TAIVIET TELU TELUGU TFNG",
  "TIFINAGH TGLG TAGALOG THAA THAANA THAI TIBT TIBETAN TIRH TIRHUTA TNSA TANGSA TOTO UGAR",
  "UGARITIC VAII VAI VITH VITHKUQI WARA WARANGCITI WCHO WANCHO XPEO OLDPERSIAN XSUX CUNEIFORM",
  "YEZI YEZIDI YIII YI ZANB ZANABAZARSQUARE ZINH INHERITED QAAI ZYYY COMMON ZZZZ UNKNOWN GARA",
  "GARAY GUKH GURUNGKHEMA KRAI KIRATRAI ONAO OLONAL SUNU SUNUWAR TODR TODHRI TUTG TULUTIGALARI"]

/-- The general categories. -/
def categories : List String := wordsOf [
  "C OTHER CC CONTROL CNTRL CF FORMAT CN UNASSIGNED CO PRIVATEUSE CS SURROGATE L LETTER LC",
  "CASEDLETTER LL LOWERCASELETTER LM MODIFIERLETTER LO OTHERLETTER LT TITLECASELETTER LU",
  "UPPERCASELETTER M MARK COMBININGMARK MC SPACINGMARK ME ENCLOSINGMARK MN NONSPACINGMARK N",
  "NUMBER ND DECIMALNUMBER DIGIT NL LETTERNUMBER NO OTHERNUMBER P PUNCTUATION PUNCT PC",
  "CONNECTORPUNCTUATION PD DASHPUNCTUATION PE CLOSEPUNCTUATION PF FINALPUNCTUATION PI",
  "INITIALPUNCTUATION PO OTHERPUNCTUATION PS OPENPUNCTUATION S SYMBOL SC CURRENCYSYMBOL SK",
  "MODIFIERSYMBOL SM MATHSYMBOL SO OTHERSYMBOL Z SEPARATOR ZL LINESEPARATOR ZP",
  "PARAGRAPHSEPARATOR ZS SPACESEPARATOR L& ASSIGNED"]

/-- The classes of bidirectional text. -/
def bidiClasses : List String := wordsOf [
  "AL ARABICLETTER AN ARABICNUMBER B PARAGRAPHSEPARATOR BN BOUNDARYNEUTRAL CS COMMONSEPARATOR",
  "EN EUROPEANNUMBER ES EUROPEANSEPARATOR ET EUROPEANTERMINATOR FSI FIRSTSTRONGISOLATE L",
  "LEFTTORIGHT LRE LEFTTORIGHTEMBEDDING LRI LEFTTORIGHTISOLATE LRO LEFTTORIGHTOVERRIDE NSM",
  "NONSPACINGMARK ON OTHERNEUTRAL PDF POPDIRECTIONALFORMAT PDI POPDIRECTIONALISOLATE R",
  "RIGHTTOLEFT RLE RIGHTTOLEFTEMBEDDING RLI RIGHTTOLEFTISOLATE RLO RIGHTTOLEFTOVERRIDE S",
  "SEGMENTSEPARATOR WS WHITESPACE"]

/-- The combining classes. -/
def combiningClasses : List String := wordsOf [
  "A ABOVE 230 AL ABOVELEFT 228 AR ABOVERIGHT 232 ATA ATTACHEDABOVE 214 ATAR ATTACHEDABOVERIGHT",
  "216 ATB ATTACHEDBELOW 202 ATBL ATTACHEDBELOWLEFT 200 B BELOW 220 BL BELOWLEFT 218 BR",
  "BELOWRIGHT 222 CCC10 10 CCC103 103 CCC107 107 CCC11 11 CCC118 118 CCC12 12 CCC122 122 CCC129",
  "129 CCC13 13 CCC130 130 CCC132 132 CCC133 133 CCC14 14 CCC15 15 CCC16 16 CCC17 17 CCC18 18",
  "CCC19 19 CCC20 20 CCC21 21 CCC22 22 CCC23 23 CCC24 24 CCC25 25 CCC26 26 CCC27 27 CCC28 28",
  "CCC29 29 CCC30 30 CCC31 31 CCC32 32 CCC33 33 CCC34 34 CCC35 35 CCC36 36 CCC84 84 CCC91 91 DA",
  "DOUBLEABOVE 234 DB DOUBLEBELOW 233 HANR HANREADING 6 IS IOTASUBSCRIPT 240 KV KANAVOICING 8 L",
  "LEFT 224 NK NUKTA 7 NR NOTREORDERED 0 OV OVERLAY 1 R RIGHT 226 VR VIRAMA 9"]

/-- The types of decompositions. -/
def decompositionTypes : List String := wordsOf [
  "CAN CANONICAL COM COMPAT ENC CIRCLE FIN FINAL FONT FRA FRACTION INIT INITIAL ISO ISOLATED",
  "MED MEDIAL NAR NARROW NB NOBREAK NONE SML SMALL SQR SQUARE SUB SUP SUPER VERT VERTICAL WIDE"]

/-- The widths in East Asian text. -/
def widths : List String := wordsOf [
  "A AMBIGUOUS F FULLWIDTH H HALFWIDTH N NEUTRAL NA NARROW W WIDE"]

/-- The parts of grapheme clusters. -/
def clusterBreaks : List String := wordsOf [
  "CN CONTROL CR EB EBASE EBG EBASEGAZ EM EMODIFIER EX EXTEND GAZ GLUEAFTERZWJ L LF LV LVT PP",
  "PREPEND RI REGIONALINDICATOR SM SPACINGMARK T V XX OTHER ZWJ"]

/-- The types of Hangul syllables. -/
def syllableTypes : List String := wordsOf [
  "L LEADINGJAMO LV LVSYLLABLE LVT LVTSYLLABLE NA NOTAPPLICABLE T TRAILINGJAMO V VOWELJAMO"]

/-- The parts of Indic conjuncts. -/
def conjunctBreaks : List String := wordsOf [
  "CONSONANT EXTEND LINKER NONE"]

/-- The places of Indic signs. -/
def positionalCategories : List String := wordsOf [
  "BOTTOM BOTTOMANDLEFT BOTTOMANDRIGHT LEFT LEFTANDRIGHT NA OVERSTRUCK RIGHT TOP TOPANDBOTTOM",
  "TOPANDBOTTOMANDLEFT TOPANDBOTTOMANDRIGHT TOPANDLEFT TOPANDLEFTANDRIGHT TOPANDRIGHT",
  "VISUALORDERLEFT"]

/-- The parts of Indic syllables. -/
def syllabicCategories : List String := wordsOf [
  "AVAGRAHA BINDU BRAHMIJOININGNUMBER CANTILLATIONMARK CONSONANT CONSONANTDEAD CONSONANTFINAL",
  "CONSONANTHEADLETTER CONSONANTINITIALPOSTFIXED CONSONANTKILLER CONSONANTMEDIAL",
  "CONSONANTPLACEHOLDER CONSONANTPRECEDINGREPHA CONSONANTPREFIXED CONSONANTSUBJOINED",
  "CONSONANTSUCCEEDINGREPHA CONSONANTWITHSTACKER GEMINATIONMARK INVISIBLESTACKER JOINER",
  "MODIFYINGLETTER NONJOINER NUKTA NUMBER NUMBERJOINER OTHER PUREKILLER REGISTERSHIFTER",
  "SYLLABLEMODIFIER TONELETTER TONEMARK VIRAMA VISARGA VOWEL VOWELDEPENDENT VOWELINDEPENDENT",
  "REORDERINGKILLER"]

/-- The groups of joining letters. -/
def joiningGroups : List String := wordsOf [
  "AFRICANFEH AFRICANNOON AFRICANQAF AIN ALAPH ALEF BEH BETH BURUSHASKIYEHBARREE DAL DALATHRISH",
  "E FARSIYEH FE FEH FINALSEMKATH GAF GAMAL HAH HANIFIROHINGYAKINNAYA HANIFIROHINGYAPA HE HEH",
  "HEHGOAL HETH KAF KAPH KHAPH KNOTTEDHEH LAM LAMADH MALAYALAMBHA MALAYALAMJA MALAYALAMLLA",
  "MALAYALAMLLLA MALAYALAMNGA MALAYALAMNNA MALAYALAMNNNA MALAYALAMNYA MALAYALAMRA MALAYALAMSSA",
  "MALAYALAMTTA MANICHAEANALEPH MANICHAEANAYIN MANICHAEANBETH MANICHAEANDALETH",
  "MANICHAEANDHAMEDH MANICHAEANFIVE MANICHAEANGIMEL MANICHAEANHETH MANICHAEANHUNDRED",
  "MANICHAEANKAPH MANICHAEANLAMEDH MANICHAEANMEM MANICHAEANNUN MANICHAEANONE MANICHAEANPE",
  "MANICHAEANQOPH MANICHAEANRESH MANICHAEANSADHE MANICHAEANSAMEKH MANICHAEANTAW MANICHAEANTEN",
  "MANICHAEANTETH MANICHAEANTHAMEDH MANICHAEANTWENTY MANICHAEANWAW MANICHAEANYODH",
  "MANICHAEANZAYIN MEEM MIM NOJOININGGROUP NOON NUN NYA PE QAF QAPH REH REVERSEDPE ROHINGYAYEH",
  "SAD SADHE SEEN SEMKATH SHIN STRAIGHTWAW SWASHKAF SYRIACWAW TAH TAW TEHMARBUTA TEHMARBUTAGOAL",
  "HAMZAONHEHGOAL TETH THINYEH VERTICALTAIL WAW YEH YEHBARREE YEHWITHTAIL YUDH YUDHHE ZAIN",
  "ZHAIN KASHMIRIYEH"]

/-- The types of joining. -/
def joiningTypes : List String := wordsOf [
  "C JOINCAUSING D DUALJOINING L LEFTJOINING R RIGHTJOINING T TRANSPARENT U NONJOINING"]

/-- The classes of line breaking. -/
def lineBreaks : List String := wordsOf [
  "AI AMBIGUOUS AL ALPHABETIC B2 BREAKBOTH BA BREAKAFTER BB BREAKBEFORE BK MANDATORYBREAK CB",
  "CONTINGENTBREAK CJ CONDITIONALJAPANESESTARTER CL CLOSEPUNCTUATION CM COMBININGMARK CP",
  "CLOSEPARENTHESIS CR CARRIAGERETURN EB EBASE EM EMODIFIER EX EXCLAMATION GL GLUE H2 H3 HL",
  "HEBREWLETTER HY HYPHEN ID IDEOGRAPHIC IN INSEPARABLE INSEPERABLE IS INFIXNUMERIC JL JT JV LF",
  "LINEFEED NL NEXTLINE NS NONSTARTER NU NUMERIC OP OPENPUNCTUATION PO POSTFIXNUMERIC PR",
  "PREFIXNUMERIC QU QUOTATION RI REGIONALINDICATOR SA COMPLEXCONTEXT SG SURROGATE SP SPACE SY",
  "BREAKSYMBOLS WJ WORDJOINER XX UNKNOWN ZW ZWSPACE ZWJ AK AKSARA AP AKSARAPREBASE AS",
  "AKSARASTART VF VIRAMAFINAL VI VIRAMA"]

/-- The types of numerals. -/
def numericTypes : List String := wordsOf [
  "DE DECIMAL DI DIGIT NONE NU NUMERIC"]

/-- The values of numerals. -/
def numericValues : List String := wordsOf [
  "-1/2 1/2 0 1 1/10 1/12 1/16 1/160 1/20 1/3 1/32 1/320 1/4 1/40 1/5 1/6 1/64 1/7 1/8 1/80 1/9",
  "10 100 1000 10000 100000 1000000 10000000 100000000 10000000000 1000000000000 11 11/12 11/2",
  "12 13 13/2 14 15 15/2 16 17 17/2 18 19 2 2/3 2/5 20 200 2000 20000 200000 20000000 21 216000",
  "22 23 24 25 26 27 28 29 3 3/16 3/2 3/20 3/4 3/5 3/64 3/8 3/80 30 300 3000 30000 300000 31 32",
  "33 34 35 36 37 38 39 4 4/5 40 400 4000 40000 400000 41 42 43 432000 44 45 46 47 48 49 5 5/12",
  "5/2 5/6 5/8 50 500 5000 50000 500000 6 60 600 6000 60000 600000 7 7/12 7/2 7/8 70 700 7000",
  "70000 700000 8 80 800 8000 80000 800000 9 9/2 90 900 9000 90000 900000 NAN"]

/-- The parts of sentences. -/
def sentenceBreaks : List String := wordsOf [
  "AT ATERM CL CLOSE CR EX EXTEND FO FORMAT LE OLETTER LF LO LOWER NU NUMERIC SC SCONTINUE SE",
  "SEP SP ST STERM UP UPPER XX OTHER"]

/-- The parts of words. -/
def wordBreaks : List String := wordsOf [
  "CR DQ DOUBLEQUOTE EB EBASE EBG EBASEGAZ EM EMODIFIER EX EXTENDNUMLET EXTEND FO FORMAT GAZ",
  "GLUEAFTERZWJ HL HEBREWLETTER KA KATAKANA LE ALETTER LF MB MIDNUMLET ML MIDLETTER MN MIDNUM",
  "NL NEWLINE NU NUMERIC RI REGIONALINDICATOR SQ SINGLEQUOTE WSEGSPACE XX OTHER ZWJ"]

/-- The properties that a character has or has not. -/
def truthProperties : List String := wordsOf [
  "ALPHABETIC ALPHA ALPHANUMERIC ALNUM ANY ASCIIHEXDIGIT AHEX BIDICONTROL BIDIC BIDIMIRRORED",
  "BIDIM BLANK CASED CASEIGNORABLE CI CHANGESWHENCASEFOLDED CWCF CHANGESWHENCASEMAPPED CWCM",
  "CHANGESWHENLOWERCASED CWL CHANGESWHENTITLECASED CWT CHANGESWHENUPPERCASED CWU DASH",
  "DEFAULTIGNORABLECODEPOINT DI DEPRECATED DEP DIACRITIC DIA EMOJI EMOJICOMPONENT ECOMP",
  "EMOJIMODIFIER EMOD EMOJIMODIFIERBASE EBASE EMOJIPRESENTATION EPRES EXTENDEDPICTOGRAPHIC",
  "EXTPICT EXTENDER EXT GRAPH GRAPHEMEBASE GRBASE GRAPHEMEEXTEND GREXT GRAPHEMELINK GRLINK",
  "HEXDIGIT HEX HYPHEN IDSBINARYOPERATOR IDSB IDSTRINARYOPERATOR IDST IDSUNARYOPERATOR IDSU",
  "IDCOMPATMATHSTART IDCOMPATMATHCONTINUE IDCONTINUE IDC IDSTART IDS IDEOGRAPHIC IDEO",
  "JOINCONTROL JOINC LOGICALORDEREXCEPTION LOE LOWERCASE LOWER MATH MODIFIERCOMBININGMARK MCM",
  "NONCHARACTERCODEPOINT NCHAR OTHERALPHABETIC OALPHA OTHERDEFAULTIGNORABLECODEPOINT ODI",
  "OTHERGRAPHEMEEXTEND OGREXT OTHERIDCONTINUE OIDC OTHERIDSTART OIDS OTHERLOWERCASE OLOWER",
  "OTHERMATH OMATH OTHERUPPERCASE OUPPER PATTERNSYNTAX PATSYN PATTERNWHITESPACE PATWS",
  "POSIXALNUM POSIXDIGIT POSIXPUNCT POSIXXDIGIT PREPENDEDCONCATENATIONMARK PCM PRINT",
  "QUOTATIONMARK QMARK RADICAL REGIONALINDICATOR RI SENTENCETERMINAL STERM SOFTDOTTED SD",
  "TERMINALPUNCTUATION TERM UNIFIEDIDEOGRAPH UIDEO UPPERCASE UPPER VARIATIONSELECTOR VS",
  "WHITESPACE WSPACE SPACE WORD XDIGIT XIDCONTINUE XIDC XIDSTART XIDS"]

/-- The values of a property that a character has or has not. -/
def truthValues : List String := ["NO", "N", "FALSE", "F", "YES", "Y", "TRUE", "T"]

/-- The properties with values of their own, by their names. -/
def valuedProperties : List (List String × List String) := [
  (["BIDICLASS", "BC"], bidiClasses),
  (["BLOCK", "BLK"], blocks),
  (["CANONICALCOMBININGCLASS", "CCC"], combiningClasses),
  (["DECOMPOSITIONTYPE", "DT"], decompositionTypes),
  (["EASTASIANWIDTH", "EA"], widths),
  (["GENERALCATEGORY", "GC"], categories),
  (["GRAPHEMECLUSTERBREAK", "GCB"], clusterBreaks),
  (["HANGULSYLLABLETYPE", "HST"], syllableTypes),
  (["INDICCONJUNCTBREAK", "INCB"], conjunctBreaks),
  (["INDICPOSITIONALCATEGORY", "INPC"], positionalCategories),
  (["INDICSYLLABICCATEGORY", "INSC"], syllabicCategories),
  (["JOININGGROUP", "JG"], joiningGroups),
  (["JOININGTYPE", "JT"], joiningTypes),
  (["LINEBREAK", "LB"], lineBreaks),
  (["NUMERICTYPE", "NT"], numericTypes),
  (["NUMERICVALUE", "NV"], numericValues),
  (["SCRIPT", "SC"], scripts),
  (["SCRIPTEXTENSIONS", "SCX"], scripts),
  (["SENTENCEBREAK", "SB"], sentenceBreaks),
  (["WORDBREAK", "WB"], wordBreaks)]

end TagAudit.Regex
