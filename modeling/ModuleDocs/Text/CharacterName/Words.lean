/-! # Words of character names

    The words that names are written with: first the most common ones, then
    the others by alphabet. -/

namespace ModuleDocs.CharacterName

/-- The words, with blanks between them. -/
def wordLines : List String := [
    "WITH LETTER SMALL FORM CAPITAL SIGN AND ARROW RIGHT -A -CHAL -CHAR -DZUD -KHYIL -KHYUD -PHRU",
    "-UM A A041 A042 A043 A044 A045 A045A A2 A309A AA AAI AAN AAY AB AB2 ABBREVIATION ABKHASIAN",
    "ABOVE AC ACADEMY ACCENT ACCOUNT ACE ACKNOWLEDGE ACTIVATE ACTUALLY ACUTE AD ADEG ADLAM ADULT",
    "AE AEB AEDA-PILLA AEE AEG AEGEAN AEK AELA-PILLA AEN AESC AET AEY AFFIX AFRICAN AG AH AHOM AI",
    "AIN AIR AIRPLANE AITON AK AKHMIMIC AKURU AL ALAPH ALAYHE ALAYHI ALBANIAN ALEF ALEMBIC ALEPH",
    "ALEUT ALFA ALI ALIEN ALIF ALL ALLAAH ALLI ALLIANCE ALLO ALMOST ALPAPRAANA ALPHA ALTA",
    "ALTERNATE ALTERNATING ALTERNATIVE ALVEOLAR AM AMAR AMB AMPERSAND AN ANATOLIAN ANCHOR ANCORA",
    "ANG ANGER ANGLE ANGLED ANGLICANA ANJI ANNOTATION ANO ANSHE ANTARGOMUKHA ANTENNA",
    "ANTICLOCKWISE ANTIMONIATE ANTIMONY ANTIRESTRICTION ANUDATTA ANUSVARA AO AP APESO APL APLI",
    "APLOUN APODERMA APOSTROFOI APOSTROFOS APOSTROPHE APPLE APPROXIMATE APPROXIMATELY AQ AR",
    "ARABIAN ARABIC ARABIC-INDIC ARAEA ARAMAIC ARC ARCH ARCHAIC ARCHAION ARDHAVISARGA ARGI",
    "ARGOSYNTHETON ARISTERA ARM ARMENIAN AROUND ARROW-TAIL ARROWHEAD ARROWHEADS ARROWS ARTS AS",
    "AS-SALAAM ASCENDING ASH ASH2 ASHES ASHGAB ASPIRATION ASSYRIAN ASTERISK ASTROLOGICAL",
    "ASYMPTOTICALLY AT ATHAPASCAN ATIU ATTACHED AU AUE AUTOMOBILE AV AVAGRAHA AVESTAN AW AWAY AWX",
    "AX AXE AY AYAH AYB AYIN AYN AZ AZU B B006 B007 B008 B009 BA BAA BABY BACK BACK-TILTED",
    "BACKHAND BACKSLANTED BACKSLASH BAD BADGER BAG BAHAR2 BAL BALAG BALINESE BALL BALLOON",
    "BALLOON-SPOKED BALLOT BALUDA BAMBOO BAMBOOS BAMUM BAN BAN2 BANK BAR BARB BARLINE BARRED",
    "BARREE BARS BASE BASELINE BASHKIR BASSA BAT BATAK BATH BATHTUB BATTERY BAYANNA BBA BBE BBI",
    "BBO BBU BBUT BCAD BE BEAM BEAMED BEAR BEAT BEAVER BEE BEEH BEER BEETLE BEGIN BEH BEHEH",
    "BEHIND BEI BELL BELOW BELT BEN BEND BENGALI BENT BENZENE BERBER BESIDE BET BETA BETH BETWEEN",
    "BEVERAGE BHA BHAIKSUKI BHE BHETH BHO BI BICYCLIST BIG BILABIAL BINARY BINDI BINDING BINDU",
    "BINOCULAR BIRD BIRGA BISHOP BIT BITING BLACK BLACK-FEATHERED BLACK-LETTER BLACKFOOT",
    "BLACKLETTER BLADE BLANK BLENDED BLOCK BLOOD BLOSSOM BLOWING BLUE BO BOAR BOARD BOAT BODY",
    "BOHAIRIC BOLD BOLT BONE BOO BOOK BOOKMARK BOOMERANG BOOT BOPOMOFO BOTH BOTTLE BOTTOM BOUQUET",
    "BOW BOWL BOWTIE BOX BRA BRACKET BRACKETED BRAHMI BRANCH BRDA BREAD BREATH BREATHY BREVE",
    "BREVIS BRICK BRIDGE BRIGHTNESS BROAD BROKEN BROWN BRUSH BU BUBBLE BUBBLES BUD BUGINESE",
    "BUILDING BUILDINGS BUKY BULLET BULUG BUON BUR BURU BUS BUT BUTTON BWA BWEE BWI BY",
    "BYELORUSSIAN-UKRAINIAN BZHI BZUNG C C-SIMPLIFIED CA CAA CADUCEUS CAKE CAKRA CALENDAR CALL",
    "CAMEL CAMERA CAN CANADIAN CANCEL CANCELLATION CANDRA CANDRABINDU CANNON CAP CAR CARD CARET",
    "CARON CARPENTRY CARRIER CART CASTLE CAT CAUCASIAN CAUDATE CAULDRON CAYANNA CAYN CC CCHE CD",
    "CE CECAK CEDILLA CEE CEILING CENT CENTRALIZATION CENTRE CENTRED CENTRELINE CER-WA CH CHA",
    "CHAA CHAIR CHAKMA CHAM CHAR CHARACTER CHARACTERS CHARIOT CHART CHASHKA CHAT CHE CHECK",
    "CHECKER CHEE CHEEKS CHEH CHELYUSTKA CHEROKEE CHESS CHEST CHEVRON CHI CHICK CHIEUCH CHILD",
    "CHILLU CHIN CHINESE CHO CHOREVMA CHOSEONG CHRISTMAS CHRIVI CHROMA CHRONON CHRONOU CHU CHURCH",
    "CI CIEUC CIL CIM CIP CIRCLE CIRCLED CIRCLES CIRCLING CIRCULAR CIRCUMFLEX CITI CITY CITYSCAPE",
    "CJK CLAN CLEF CLICK CLIFF CLINKING CLOCK CLOCKWISE CLOSE CLOSED CLOSING CLOTH CLOTHES CLOUD",
    "CLUB CLUBS CLUSTER-INITIAL CM CO COAT COLD COLON COMBINING COMMA COMMERCIAL COMPLETION",
    "COMPOSITION COMPRESSED COMPUTER CON CONGRATULATION CONJOINED CONJOINING CONSECUTIVE",
    "CONSONANT CONSTANT CONSTRUCTION CONTACT CONTAIN CONTAINING CONTAINS CONTOUR CONTROL COO",
    "COOKIE COPPER COPRODUCT COPTIC COPYRIGHT CORNER CORNERS COVER COVERING COW CREAM CREDIT",
    "CRESCENT CRESCENTS CRICKET CROCUS CROP CROSS CROSSBAR CROSSBONES CROSSED CROSSED-TAIL",
    "CROSSHATCH CROSSING CROWN CRYING CRYPTOGRAMMIC CU CUATRILLO CUBE CUBED CULTIVATION CUM",
    "CUNEIFORM CUOP CUP CUPPED CURL CURLICUE CURLY CURRENCY CURRENT CURSIVE CURVE CURVED CURVING",
    "CUSP CUT CWA CWAA CWE CWI CWII CWO CWOO CY CYA CYP CYPRIOT CYPRO-MINOAN CYRILLIC CYT D DA",
    "DAA DAALI DAD DAG DAGESH DAGGER DAHAL DAL DALATH DALDA DALET DALETH DAMMA DAMMATAN DANDA",
    "DANG DANTAJA DAP DAP-BEI DAP-BUON DAP-MUOY DAP-PII DAP-PRAM DAR DARA3 DARK DARKENING DASH",
    "DASHED DASIA DAT DATE DAY DAYANNA DB DCHE DDA DDAA DDAHAL DDAL DDAYANNA DDDA DDDHA DDE DDHA",
    "DDHAA DDHO DDI DDO DDU DDUR DE DEATH DECIMAL DECORATION DECREASE DEE DEER DEGREE DEGREES DEI",
    "DEL DELETE DELIMITER DELTA DEMESTVENNY DENE DENOMINATOR DENTAL DEPARTING DEPARTURE DESCENDER",
    "DESCENDING DESKTOP DEVANAGARI DEXIA DEYTEROS DEZH DH DHA DHE DHO DI DIAERESIS DIAGONAL",
    "DIALECT-P DIALYTIKA DIAMOND DIAMONDS DIATONIKI DIB DIE DIESIS DIFFERENTIAL DIFONIAS DIGA",
    "DIGAMMA DIGIT DIGRAM DIGRAMMOS DIGRAPH DIM DIM2 DIMINUTION-1 DIN DINGBAT DIPLI DIRECT",
    "DIRECTION DIRECTIONAL DIRECTLY DISAPPOINTED DISC DISH DISIMOU DISK DIVES DIVIDE DIVIDED",
    "DIVIDER DIVINATION DIVISION DIZZY DJA DJE DJERV DJERVI DKAR DLA DO DOACHASHMEE DOBRO",
    "DOCUMENT DODEKATA DOES DOG DOI DOLLAR DOLLS DOMINO DON DONG DOO DOOR DOT DOTLESS DOTS DOTTED",
    "DOUBLE DOUBLE-LINE DOUBLE-LINED DOUBLE-STRUCK DOUBLED DOVE DOWN DOWN-POINTING DOWNWARDS",
    "DRACHMA DRACHMAS DRAGON DRAM DRAUGHTS DRAWINGS DRESS DRINK DRIVE DROP-SHADOWED DROPLET DRUM",
    "DRY DU DUB DUG DUL DUN DUN3 DUNG DUPLOYAN DV DVOECHELNAYA DVOECHELNOPOVODNAYA DWE DYEH DYO",
    "DZ DZA DZE DZEE DZELO DZHA DZHE DZI DZJE DZO DZU DZWE DZZE DZZHE E E2 EA EAGLE EAR EARS",
    "EARTH EAST EASTERN EAT EB EC ECH ECS ED EE EF EG EGG EGY EGYPTIAN EGYPTOLOGICAL EH EHCHA",
    "EHKA EHPA EHTA EHTSA EI EIE EIGHT EIGHTEEN EIGHTH EIGHTHS EIGHTIETHS EIGHTY EIN EJ EK",
    "EKFONITIKON EL ELAMITE ELECTRIC ELEMENT ELEPHANT ELEVEN ELIFI ELLIPSE ELLIPSIS ELY EM",
    "EMBEDDING EMOJI EMP EMPHASIS EMPTY EN ENC ENCLOSING ENCLOSURE ENCLOSURES END ENG ENGINE ENN",
    "ENT ENT-SHAPED ENTER ENTERPRISE ENTRY ENVELOPE ENY EO EP EPENTHETIC EPIDAUREAN EPIGRAPHIC",
    "EPSILON EQUAL EQUALS EQUIHOPPER EQUILATERAL EQUIVALENT ER ERA ERASE EREN ERIN2 ERR ES ESCAPE",
    "ESH ESH2 ESHE3 ESZ ET ETA ETERNITY ETERON ETH ETHIOPIC ETY EU EURO EUROPEAN EV EVEN EW EWE",
    "EX EXCLAMATION EXO EXTENDED EXTENSION EXTRA-HIGH EXTRA-LOW EXTREMELY EYE EYEBROWS",
    "EYEGAZE-FLOORPLANE EYEGAZE-WALLPLANE EYES EYN EZ EZEN EZH EZS F FA FAA FACE FACING FACTOR",
    "FALLING FAMILY FAN FARSI FATHA FATHATAN FATHER FAX FE FEATHER FEE FEED FEH FEI FEMALE",
    "FEMININE FENCE FENG FERMATA FI FIELD FIFTEEN FIFTH FIFTHS FIFTY FIGURE FILE FILL FILLER FILM",
    "FINAL FINANCIAL FINGER FINGER-POST FINGERS FIRE FIRST FISH FISHHOOK FIST FITA FIVE",
    "FIXED-FORM FLAG FLAME FLAT FLATBREAD FLATTENED FLEURON FLEX FLEXUS FLICK FLIP FLOOR FLOPPY",
    "FLORAL FLORETTE FLOURISH FLOWER FLUTE FLUTTERING FLY FLYING FO FOLDER FOLLOWING FOM FONT FOO",
    "FOOD FOOT FOOTBALL FOOTNOTE FOR FORK FORKED FORTIETH FORTY FORTY-FIVE FORWARD FOUNTAIN FOUR",
    "FOURTEEN FOURTH FOX FRACTION FRAKTUR FRAME FREE FRENCH FRETBOARD FRITU FROG FROM FRONT",
    "FRONT-TILTED FROWN FROWNING FTHORA FU FUE FULL FULLWIDTH FUNCTION FUNCTIONAL FUR FWA FWAA",
    "FWEE FWI G GA GA2 GAA GABA GAD GAETTA-PILLA GAF GAH GAL GALI GAME GAMMA GAN GAN2 GANGIA GAP",
    "GAPPED GAR GARSHUNI GATE GATHERING GAY GAYANNA GAYANUKITTA GBA GBE GBEE GBI GBO GBOO GBU",
    "GCIG GE GEAR GEE GEMINATION GENERAL GEOMETRICALLY GEORGIAN GEP GERESH GERSHAYIM GESH2",
    "GESHTIN GESHU GESTURE GGA GGE GGI GGO GGOP GGU GGUO GHA GHAA GHAD GHAIN GHAN GHE GHEUAE GHHA",
    "GHO GHOST GHUNNA GI GI4 GIBBOUS GIM GIMEL GIR2 GISH GJE GLAGOLI GLAGOLITIC GLASS GLOBE",
    "GLOTTAL GNYIS GO GOAL GOLD GONDI GORAZDO GORGI GORGON GOT GRACE GRAM GRANTHA GRASS GRAVE",
    "GREAT GREATER GREATER-THAN GREEK GREEN GRINNING GROMNAYA GROMOKRYZHEVAYA GROMOPOVODNAYA",
    "GROUND GROUP GSUM GTER GU GU2 GUARD GUD GUEH GUJARATI GUL GUM GUNJALA GUNU GUR GUR7 GURAGE",
    "GURMUKHI GV GWA GWE GWEE GWI GYAS GYON H HA HAA HAE HAH HAIR HAL HALANTA HALF HALF-CIRCLE",
    "HALFWIDTH HAMMER HAMZA HAN HAND HAND-ANGLE HAND-CIRCLE HAND-CLAW HAND-CUP HAND-CURLICUE",
    "HAND-FIST HAND-FLAT HAND-HINGE HAND-HOOK HAND-OVAL HANDLE HANDS HANGUL HANGZHOU HANIFI HAR",
    "HARD HARPOON HASANTA HAT HATE HATRAN HAU HAVE HE HEAD HEADED HEADSTONE HEADSTROKE HEART",
    "HEART-SHAPED HEARTS HEAVEN HEAVY HEBREW HEE HEEL HEH HEI HELMET HEN HENG HENTAIGANA",
    "HERMIONIAN HERU HET HETA HETH HEXAGON HG HHA HHAA HHWA HI HIE HIEROGLYPH HIEUH HIGH",
    "HIGH-REVERSED-9 HII HIN HINGE HINGED HIP HIRAGANA HIRIQ HIT HITTING HIYO HLA HLI HMO HMONG",
    "HNA HO HOCKEY HOE HOLAM HOLDING HOLE HOLO HOMOTHETIC HON HOO HOOK HOOKED HORI HORIZONTAL",
    "HORN HORNS HORR HORSE HOT HOTEL HOUR HOURGLASS HOUSE HP HTA HU HUB2 HUGGING HUMAN HUMP HUN",
    "HUNDRED HUNDREDS HUNGARIAN HV HWAIR HWE HXIT HXOP HXUO HYA HYPHEN HYPHEN-MINUS HYPHENATION",
    "HZ I IA IAN IAUDA IB IC ICE ICHIMATOS ICHOS ICON IDENTICAL IDENTIFICATION IDEOGRAM IDEOGRAPH",
    "IDEOGRAPH-4E09 IDEOGRAPH-4E8C IDEOGRAPH-6253 IDEOGRAPHIC IDIM IE IEUNG IEUNG-KIYEOK IG IGI",
    "IH II IJ IJE ILIMMU IM IMAGE IMIN IMPERFECTA IMPERIAL IN INCREASE INDEPENDENT INDEX INDIC",
    "INDICATOR INFINITY INFORMATION ING INHIBIT INI INITIAL INNER INSCRIPTIONAL INSERTION INSIDE",
    "INSTRUMENTAL INSULAR INTEGRAL INTEGRATION INTERIOR INTERLACED INTERPOLATION INTERROBANG",
    "INTERSECTION INVERSE INVERTED IO IOTA IOTATED IOTIFIED IQ IR IRON IS IS-PILLA ISH ISOLATE",
    "ISOLATED ISON ISOSCELES ISSHAR IT ITALIC ITERATION IU IX IY IYEK IZHE IZHITSA J J-SIMPLIFIED",
    "JA JAA JACK JADE JAPANESE JAR JAVANESE JAW JAYANNA JE JEE JEEM JEGOGAN JEH JHA JHAN JHEH JI",
    "JIHVAMULIYA JIIM JIL JJA JJI JJIE JJO JJU JJUT JJY JNYA JO JOIN JOINED JOINER JOKER",
    "JONGSEONG JOO JOT JOY JU JUNGSEONG JWA K KA KA2 KAA KAAF KAB KABA KAD2 KAD3 KAD5 KAF KAH KAI",
    "KAITHI KAK KAKO KAL KAN KANG KANNADA KAP KAPA KAPH KAPPA KAPYEOUNMIEUM KAPYEOUNPHIEUPH",
    "KAPYEOUNPIEUP KAPYEOUNRIEUL KAPYEOUNSSANGPIEUP KAREN KARO KASHMIRI KASKAL KASRA KASRATAN",
    "KATAKANA KATAKANA-HIRAGANA KATHAKA KATO KAVYKA KAY KAYAH KAYANNA KE KEE KEEPING KEH KEHEH",
    "KEMPLI KEMPUL KEN KENTIMA KENTIMATA KESH2 KET KETTI KEUM KEUX KEY KEYBOARD KEYCAP KG KHA",
    "KHAA KHAH KHAI KHAKASSIAN KHAMTI KHAPH KHAR KHAROSHTHI KHE KHEI KHHA KHHO KHI KHIEUKH KHMER",
    "KHO KHOJKI KHOKHLOM KHUDAWADI KI KID KIKAKUI KIN KING KINNA KIP KIRGHIZ KISIM5 KISS KISSING",
    "KIT KIYEOK KIYEOK-SIOS KJE KK KKA KLASMA KLYUCH KLYUCHENEPOSTOYANNAYA KLYUCHEVAYA KM KNIFE",
    "KNIGHT KNIGHT-BISHOP KNIGHT-QUEEN KNIGHT-ROOK KNUCKLE KNUCKLES KO KOET KOI KOK KOMBUVA KOMI",
    "KON KONTEVMA KOO KOPPA KORANIC KOREAN KORONIS KOTO KP KPA KPE KPEE KPI KPO KPOO KPU",
    "KRYUKOVAYA KRYZH KRYZHEM KSI KSSA KU KU3 KUL KUN KUOP KUR KUSHU2 KUT KVA KW KWA KWAA KWE",
    "KWEE KWI KWII KWO KWOO KXA KYA KYEE L L-SHAPED LA LAA LAAM LABIAL LABOR LAE LAGAB LAGAR LAI",
    "LAING LAK-050 LAK-079 LAK-081 LAKE LAKH LAL LAM LAMDA LAME LAMED LAMEDH LAMP LAN LANE LANES",
    "LANTANG LAO LAP LARGE LARGER LARGEST LAS LAST LATERAL LATIN LATINATE LAULA LAW LAYANNA LAZY",
    "LCE LE LEADER LEAF LEATHER LEE LEEEE LEERAEWA LEFT LEFT-FACING LEFT-POINTING LEFT-SHADED",
    "LEFT-STEM LEFT-TO-RIGHT LEFTWARDS LEG LEGETOS LEIMMA LEK LENGA LENGTH LENGTHENER LENIS",
    "LENTICULAR LEPCHA LESH LESS-THAN LET LETTERS LEU LEVEL LEZH LH LHA LHAA LHI LHO LI LID LIE",
    "LIGATURE LIGHT LIGHTNING LIMBU LIMMU LINE LINEAR LINES LING LINK LIP LIPS LIQUID LIRA LISH",
    "LISU LITTER LITTLE LIWN LJ LJE LJUDIJE LL LLA LLLA LO LOCATION LOCK LOCOMOTIVE LOGICAL",
    "LOGOGRAM LOM LONG LONGA LONSUM LOO LOOP LOOPED LOOT LOQ LOTUS LOVE LOW LOW-9 LOW-FALLING",
    "LOWER LOWERED LOZENGE LS LU LU2 LU3 LUE LUGAL LUGGAGE LUH LUL LUM LUNATE LV LWA LWAA LWE LWI",
    "LWII LWO LWOO LY LYDIAN LYR LZ M M001 M002 M003 M011 M012 M013 M014 M015 M016 M017 M023 M024",
    "M025 M026 M027 M028 M029 M030 M031 M032 M033 M041 M042 M043 M044 MA MAA MACHINE MACRON MADDA",
    "MADDAH MAE MAEM MAEMBA MAESI MAGNIFYING MAH MAHAAPRAANA MAHAPRANA MAI MAILBOX MAKSURA",
    "MALAYALAM MALE MALO MAN MANCHU MANDAIC MANDAILING MANDARIN MANICHAEAN MAP MAPIQ MAQ MAR",
    "MARBUTA MARCHEN MARK MARK-1 MARK-2 MARK-3 MARKER MARTYRIA MASARAM MASH MASH2 MASK",
    "MATHEMATICAL MAY MAYEK MB MBA MBAA MBANYI MBE MBEE MBEN MBEUM MBI MBIT MBO MBOO MBU MC MCHAN",
    "MCHU MDUN ME MEASURE MEASURED MEAT MEDAL MEDIAL MEDIEVAL MEDIUM MEE MEEEE MEEJ MEEM MEET",
    "MEETEI MEGA MELON MEM MEM-QOPH MEMBER MEN MENDE MERCURY MERGE MEROITIC MES MESH MESO METAL",
    "MEUN MEUT MFON MGBA MGO MHA MI MIAO MICROPHONE MID MID-LEVEL MIDDLE MIDDLE-WELSH MIDLINE",
    "MIEE MIEUM MIEUM-KIYEOK MIEUM-PANSIOS MIEUM-PIEUP MIEUM-SIOS MIG MIIM MILITARY MILLE",
    "MILLIONS MIM MIN MINIMA MINNAN MINUS MIRROR MIT MLA MM MNAS MO MOBILE MODI MODIFIER MON",
    "MONEY MONGOLIAN MONKEY MONOCULAR MONOFONIAS MONOGRAM MONOGRAMMOS MONOGRAPH MONOSPACE MONTH",
    "MOO MOOD MOON MOP MORTAR MOTHER MOTOR MOUND MOUNTAIN MOUSE MOUTH MOVE MOVEMENT",
    "MOVEMENT-FLOORPLANE MOVEMENT-WALLPLANE MPA MRACHNAYA MRO MTAVRULI MU MUAE MUAN MUCAAD MUCH",
    "MUG MULTANI MULTIMAP MULTIPLE MULTIPLICATION MUOY MURDA MUSH MUSH3 MUSIC MUSICAL MUURDHAJA",
    "MV MVOP MW MWA MWAA MWE MWEE MWI MWII MWO MWOO MY MYA MYANMAR MYSLITE N N-ARY N-CREE NA NA2",
    "NAA NAASIKYAYA NABATAEAN NABLA NAE NAG NAGA NAH NAKAARA NAM2 NAME NANA NANDINAGARI NAQ NAR",
    "NARROW NASAL NASALIZATION NASHI NASKAPI NATIONAL NATURAL NAYANNA NBIE NDA NDAA NDAM NDAP NDE",
    "NDEE NDI NDO NDOLE NDOO NDU NE NECK NEE NEGATED NEGATIVE NEITHER NEN NENOE NEO",
    "NEPOSTOYANNAYA NEPTUNE NEQUDAA NEST NESTED NET NEUTRAL NEW NEWA NEWLINE NEWSPAPER NG NGA",
    "NGAA NGAS NGE NGEN NGGA NGGAAM NGGE NGGEE NGGEN NGGEUAET NGGI NGGO NGGOO NGGU NGHA NGI NGKA",
    "NGKUE NGKWAEN NGO NGOEH NGOM NGON NGOP NGOU NHA NI NIB NIEUN NIEUN-CIEUC NIEUN-HIEUH",
    "NIEUN-KIYEOK NIEUN-PANSIOS NIEUN-SIOS NIEUN-TIKEUT NIGHT NII NIKOLSBURG NIN NINDA2 NINE",
    "NINETEEN NINETY NIZKO NJ NJA NJAEM NJAEMLI NJAM NJE NJEE NJEUX NJI NJO NJOO NJU NJUAE NJUEQ",
    "NKAARAE NKO NN NNA NNNA NO NO-BREAK NODE NOO NOON NOR NORMAL NORTH NORTHERN NOSE NOT",
    "NOTATION NOTCH NOTCHED NOTE NOTEHEAD NOTES NOW NOZHKA NRA NSHA NSHIEE NSHUT NSIEE NTAA NTAP",
    "NTEE NTEUM NTOG NTUU NU NU11 NUAE NUBIAN NUENG NUKTA NULL NUMBER NUMERAL NUMERATOR NUMERIC",
    "NUN NUNG NUNUZ NUT NUTILLU NV NWA NWAA NWE NWI NWII NWO NWOO NY NYA NYAA NYAM NYE NYEE NYEH",
    "NYET NYHA NYI NYIAKENG NYIP NYIS NYIT NYO NYOP NYU NZA NZUP O OA OAY OBLIQUE OBOLS OCLOCK",
    "OCTAGON ODD OE OEE OEK OF OFFICE OGONEK OH OHM OI OIL OIN OJIBWAY OK OKTO OL OLD OLDER",
    "OLIGON OLIVE OM OMEGA OMET OMICRON OMISSION ON ONCOMING ONE ONE-HUNDRED-AND-SIXTIETH ONG ONN",
    "ONU OO OOE OOU OP OPEN OPEN-HEADED OPENING OPERATOR OPPOSING OPPOSITION OPTICAL OQ OR ORANGE",
    "ORDINAL ORE ORIGINAL ORIYA ORKHON ORNAMENT OS OSAGE OSMANYA OT OTTAVA OTU OU OUNCE OUT OUTER",
    "OUTLINED OV OVAL OVER OVERBAR OVERLAID OVERLAP OVERLAPPING OVERLAY OVERLINE OVERLONG",
    "OVERRIDE OW OX OXEIA OXIA OY OYRANISMA P PA PAA PAA-PILLA PAAM PAD PADA PAGE PAGES PAHAWH",
    "PAHLAVI PAIRED PAKPAK PALATAL PALAUNG PALI PALM PALOCHKA PAMADA PAMPHYLIAN PAMUDPOD PAN",
    "PANGOLAT PANSIOS PANTI PAP PAPER PAR PARA PARAGRAPH PARAGRAPHOS PARAKALESMA PARAKLITIKI",
    "PARALLEL PARALLELOGRAM PARAPHRASE PARENTHESES PARENTHESIS PARENTHESIZED PARESTIGMENON PART",
    "PARTHIAN PARTIAL PARTNERSHIP PARTY PATAH PATH PATTERN PAW PAWN PAYANNA PAYEROK PE PEACE",
    "PEAKS PEDAL PEDESTAL PEDESTRIAN PEE PEH PEHEH PELASTON PEN PENCIL PENNANT PENTAGON PENTAGRAM",
    "PENTASEME PEOPLE PEPET PEPPER PER PERCENT PERCUSSIVE PERFECTA PERISPOMENI PERMIC",
    "PERPENDICULAR PERSIAN PERSON PERSONAL PESH2 PESO PETALLED PEUX PHA PHAA PHAR PHARYNGEAL PHE",
    "PHI PHIEUPH PHIEUPH-PIEUP PHO PHOENICIAN PHONE PHRASE PHUR PI PIASMA PICK PICTURE PIE PIECE",
    "PIEUP PIEUP-CHIEUCH PIEUP-CIEUC PIEUP-HIEUH PIEUP-KIYEOK PIEUP-PHIEUPH PIEUP-SIOS",
    "PIEUP-SIOS-KIYEOK PIEUP-SIOS-TIKEUT PIEUP-THIEUTH PIEUP-TIKEUT PIG PII PILCROW PIN PING",
    "PINWHEEL PIP PIPAEMBA PIPAEMGBIEE PIRIG PISELEH PIT PITCHFORK PIWR PLA PLACE PLACEHOLDER",
    "PLAGIOS PLANE PLASTICS PLAYING PLOPHU PLUS PLUTA PLUTO PNEUMATA PO PODCHASHIE POINT POINTED",
    "POINTER POINTING POKOJI POLE POLI POLICE POLISH POLLU POMMEE PON POO POP POSITION POSSESSION",
    "POST POSTAL POT POTATO POUND POUTING POVODNAYA POVYSHE POWER POWERS PRAM PRAM-BEI PRAM-BUON",
    "PRAM-MUOY PRAM-PII PRECEDE PRECEDES PRECEDING PREFIXED PREGNANT PREPONDERANCE PRESENTATION",
    "PRIME PRINT PRINTER PRISHTHAMATRA PRODUCT PROLATIONE PROLONGED PROPELLER PROPORTION",
    "PROSGEGRAMMENI PROSTAYA PROTOS PSALTER PSI PSIFISTON PSILI PU PUACHUE PUAE PUE PUNCTUATION",
    "PUP PURPLE PUSHPIN PUT PWA PWAA PWE PWEE PWI PWII PWO PWOO PYT Q QA QAA QAAF QAF QAI QAMATS",
    "QAR QATAN QE QI QII QITSA QO QOF QOO QOPH QOT QU QUA QUAD QUADRANT QUADRUPLE QUARTER",
    "QUARTERS QUE QUEEN QUESTION QUI QUILL QUILT QUO QUOTATION QUOTE QUU QUV QWE QWEE QWI R",
    "R-CREE RA RA-2 RAA RABBIT RACING RACQUET RAD RADI RADICAL RADIO RAE RAFE RAILWAY RAIN RAISED",
    "RAISING RAM RAMS RANA RANGE RAP RAT RATHA RAY RAYS RDEL RDO RE REACH RECEIVER RECORD",
    "RECTANGLE RECTANGULAR RECTILINEAR RECYCLING RED REDUPLICATION REE REFORMED REGULUS REH",
    "REJANG RELATION RELAXED RELIEVED REN REPA REPEAT REPETITION REPLACEMENT RERENGGAN RESH",
    "RESOURCE RESPONSE REST RETROFLEX RETURN REUX REVERSE REVERSED REVOLVING RGYA RGYAN RGYINGS",
    "RHA RHO RI RIBBON RICE RIEE RIEUL RIEUL-HIEUH RIEUL-KAPYEOUNPIEUP RIEUL-KHIEUKH RIEUL-KIYEOK",
    "RIEUL-KIYEOK-SIOS RIEUL-MIEUM RIEUL-NIEUN RIEUL-PANSIOS RIEUL-PHIEUPH RIEUL-PIEUP",
    "RIEUL-PIEUP-SIOS RIEUL-SIOS RIEUL-SSANGKIYEOK RIEUL-THIEUTH RIEUL-TIKEUT RIEUL-YEORINHIEUH",
    "RIGHT-FACING RIGHT-POINTING RIGHT-SHADED RIGHT-SHADOWED RIGHT-TO-LEFT RIGHTWARDS RII RIKRIK",
    "RING RINGS RISH RISING RITSI RJE RNAM RNOON RNYING RO ROC ROCK ROCKET ROG ROHINGYA ROLLER",
    "ROLLING ROMAN ROMANIAN ROO ROOK ROOT ROSETTE ROTATED ROTATION-FLOORPLANE ROTATION-WALLPLANE",
    "ROTATIONS ROTUNDA ROUND ROUNDED RR RRA RRE RREH RRO RTAGS RU RUB RUDIMENTA RULER RUM RUMAI",
    "RUNNING RUPEE RWA RWAA RY S S-SHAPED SA SAA SAD SADE SADHE SAFETY SAFHA SAG SAH SAL SALLA",
    "SALLALLAHOU SALT SALTILLO SALTIRE SAM SAMARITAN SAMBA SAMEKH SAMPI SAN SANDAL SANDHI",
    "SANS-SERIF SANYAKA SAP SAR SARA SARI SASAK SAT SATANGA SATELLITE SAURASHTRA SAW SAY SAYANNA",
    "SAYISI SCANDICUS SCHOOL SCHWA SCISSORS SCOOTER SCOTS SCREEN SCRIPT SE SEAL SEBATBEIT SECANT",
    "SECOND SECTION SEE SEEN SEGMENT SEGNO SEGOL SEH SEISMA SELECTOR SELF SEMI-VOICED SEMIBREVIS",
    "SEMICIRCLE SEMICIRCULAR SEMICOLON SEMIDIRECT SEMIMINIMA SEMISOFT SEMKATH SEPARATOR",
    "SEQUENTIAL SERIF SERIFS SESAME SET SEUX SEVEN SEVENTEEN SEVENTY SEXTULA SGAB SGAW SH SHA",
    "SHA3 SHA6 SHAA SHAD SHADDA SHADE SHADED SHADOWED SHAFT SHAKING SHAN SHANG SHAPES SHAPING",
    "SHAR2 SHARP SHARU SHAT SHCHA SHE SHEE SHEEN SHEEP SHEI SHELF SHELL SHESH SHESHIG SHET SHEUX",
    "SHHA SHI SHID SHIELD SHII SHIM SHIMA SHIN SHIP SHIQ SHIR SHITA SHO SHOE SHOG SHOGI SHOO SHOP",
    "SHOPPING SHOQ SHORT SHORTS SHOULDER SHOY SHRI SHRIMP SHTA SHTAPIC SHU SHU2 SHUR SHWA SHWAA",
    "SHWE SHWI SHWII SHWO SHWOO SHY SI SIBE SIDDHAM SIDE SIDEWAYS SIG SIG4 SIGMA SIGMOID SIGNS",
    "SIGNWRITING SII SIK2 SILA3 SILHOUETTE SILK SIMA SIMALUNGUN SIMILAR SIMPLIFIED SIN SINGLE",
    "SINGLE-LINE SINHALA SINNYIIYHE SIOS SIOS-CHIEUCH SIOS-CIEUC SIOS-HIEUH SIOS-KIYEOK",
    "SIOS-MIEUM SIOS-NIEUN SIOS-PIEUP SIOS-RIEUL SIOS-THIEUTH SIOS-TIKEUT SIX SIXTEEN SIXTEENTH",
    "SIXTEENTHS SIXTH SIXTHS SIXTY SIXTY-FOURTH SIYAQ SIZE SJE SKAMEYTSA SKATE SKEWED SKI SKLIRON",
    "SKULL SLANTED SLASH SLEEPING SLICE SLIGHTLY SLOAN SLOVO SLOW SLUR SMALLER SMASH SMILE",
    "SMILING SMOKING SNAKE SNOUT SNOW SNOWFLAKE SNOWMAN SO SOAP SOCIETY SOF SOFT SOGDIAN SOLDIER",
    "SOLIDUS SOM SOMPENG SOO SORA SOROCHYA SOT SOU SOUND SOURCE SOUTH SOUTHERN SPACE SPACING",
    "SPADE SPADES SPARKLE SPEAKER SPEAR SPECIAL SPEECH SPHERICAL SPIDERY SPIRAL SPIRIT SPLAYED",
    "SPLIT SPOKED SPOON SPREAD SQUARE SQUARED SQUARES SQUAT SQUEEZE SQUIGGLE SQUIRREL SREDNE SS",
    "SSA SSANGCIEUC SSANGHIEUH SSANGIEUNG SSANGKIYEOK SSANGNIEUN SSANGPIEUP SSANGRIEUL SSANGSIOS",
    "SSANGTIKEUT SSE SSI SSO SSU SSUU ST STAFF STAMPED STANDARD STAR START STATERS STATYA STAVROS",
    "STEAM STEM STEP STICK STICKING STIGMA STILE STOCK STONE STOP STOPITSA STORE STRAIGHT STRANNO",
    "STRATUM STRELA STRESS STRETCHED STROKE STROKES STRONG STUDY SU SUA SUBGROUP SUBJOINED",
    "SUBJOINER SUBLIMATE SUBLINEAR SUBSCRIPT SUBSET SUBSTITUTE SUBSTITUTION SUBUNIT SUCCEED",
    "SUCCEEDS SUCKED SUE SUHUR SUIT SUKU SUKUN SULFUR SUM SUMMATION SUN SUNDANESE SUNG SUNGLASSES",
    "SUPERSCRIPT SUPERSET SUPERVISE SUPRALINEAR SUR SURANG SURFACE SURROUND SUSPENSION SUU SV",
    "SVARITA SVASTI SVETLAYA SW SWA SWAA SWAPPING SWASH SWE SWEAT SWEET SWI SWII SWIRL SWO SWOO",
    "SYLLABICS SYLLABLE SYMBOL SYMBOLS SYMMETRIC SYNAGMA SYRIAC T TA TA-2 TA-ROL TAA TAALUJA TAB",
    "TABLE TABULATION TACK TAE TAG TAGALOG TAGBANWA TAH TAI TAIL TAILED TAK4 TAKRI TALENTS TALING",
    "TALL TALLY TAM TAMIL TAMING TAN TANGENT TANGSA TANNED TAPE TAR TARGET TAT TATWEEL TAU TAV",
    "TAW TAXI TAYANNA TC TCHE TCHEH TCHEHEH TE TEARDROP-SPOKED TEARS TEDUNG TEE TEH TEHEH",
    "TELEGRAPH TELEIA TELEPHONE TELISHA TELOUS TELUGU TEN TENNIS TENS TENSE TENT TENTH TENU TESH",
    "TESSERA TET TETARTIMORION TETARTOS TETH TETRASEME TETRASIMOU TEUAEN TEUAEQ TEXT TH THA THAA",
    "THAI THAL THAM THAN THE THEE THEH THEMA THEN THERMOMETER THESEOS THESPIAN THETA THETHE THI",
    "THIEUTH THII THIN THIRD THIRDS THIRTEEN THIRTY THIRTY-FIVE THIRTY-SECOND THO THONG THOO",
    "THORN THOUGHT THOUSAND THOUSANDS THREAD THREE THREE-D THROUGH THU THUMB THUMBS THUNDER THWA",
    "THWAA TI TIBETAN TICK TIE TIFINAGH TIGER TIGHT TIGHTLY-CLOSED TIKEUT TIKEUT-CIEUC",
    "TIKEUT-KIYEOK TIKEUT-PIEUP TIKEUT-RIEUL TIKEUT-SIOS TIKHAYA TIKHY TIL TILDE TILE TILTING",
    "TIME TIMES TINY TIP TIR TIRHUTA TIRONIAN TIT TITA TITLO TIWN TJE TLA TLE TLHA TLHE TLHI TLHO",
    "TLI TLO TLU TLV TO TODO TOGETHER TONAL TONE TONE-1 TONE-2 TONE-3 TONE-4 TONE-5 TONE-6 TONE-7",
    "TONE-8 TONGUE TONOS TOO TOOTH TOP TOP-LIGHTED TOPBAR TOQ TORCULUS TORTOISE TOT TOTAL",
    "TOUCHING TOUCHTONE TOWARDS TRA TRACK TRAFFIC TRAIN TRANSMISSION TRANSPOSITION TRAY TREE",
    "TREMOLO-1 TREMOLO-2 TREMOLO-3 TREND TRESILLO TRESVETLAYA TRIANGLE TRIANGLE-HEADED TRIANGULAR",
    "TRICOLON TRIDENT TRIGRAMMOS TRIPLE TRISEME TRISIMOU TRITIMORION TROEZENIAN TROKUTASTI",
    "TROMIKON TROPICAL TRUCK TRUE TRUNK TS TSA TSADI TSATA TSE TSEE TSHA TSHE TSHEG TSHES TSI TSO",
    "TSSE TSU TSV TSWE TT TTA TTAA TTAYANNA TTE TTEH TTEHEH TTHA TTHAA TTHE TTHI TTHO TTI TTO",
    "TTTA TTUDDAAG TU TUAREG TUG2 TUK TUM TUOT TUP TUR TURBAN TURN TURNED TURNSTILE TURTLE TVRIDO",
    "TWA TWAA TWE TWELFTHS TWELVE TWENTIETH TWENTIETHS TWENTY TWENTY-EIGHTH TWENTY-FIVE",
    "TWENTY-FOUR TWENTY-ONE TWENTY-THREE TWENTY-TWO TWI TWII TWO TWO-CIRCLE TWO-HEADED TWO-WAY",
    "TWOO TYPE TYPE-3 TYPE-4 TYPE-5 TYPE-6 TZ U U-SHAPED U2 UA UB UBADAMA UC UD UDATTA UE UEX UEZ",
    "UGARITIC UH UI UIGHUR UK UKRAINIAN UKU ULU UM UMBRELLA UMUM UN UNDER UNDERBAR UNDERLINE",
    "UNDERTIE UNIFIED UNION UNIT UNIVERSAL UNK UNN UO UP UP-POINTING UPADHMANIYA UPPER UPSILON",
    "UPTURN UPWARD UPWARDS UR UR2 URANUS URU URUDA US USED USH UU UUE UY V VA VAA VAH VANE VAREIA",
    "VARIA VARIANT VARIATION VAV VE VEDE VEDIC VEE VEH VEND VEP VERSE VERTICAL VERTICALLY VERY",
    "VESSEL VEW VI VICTORY VIDA VIDEO VIET VIN VINE VINEGAR VIRAMA VISARGA VISIGOTHIC VITHKUQI",
    "VIYO VO VOCALIC VOICED VOICING VOLAPUK VOO VOS VOU VOWEL VRACHY VU VULGAR VUR VY VYSOKO W WA",
    "WAA WAE WAITING WALK WALL WANCHO WANING WAP WARANG WASALLAM WASLA WATCH WATER WAU WAVE WAVES",
    "WAVING WAVY WAW WAW-AYIN-RESH WAX WAXING WAY WC WE WEARY WEDGE-TAILED WEE WEI WEIGHT WEO",
    "WEST WEST-CREE WESTERN WHALE WHEAT WHEEL WHEELCHAIR WHITE WHOLE WI WIDE WIDE-HEADED WIDTH",
    "WIGGLY WII WIND WINDOW WINDU WINE WINKING WITHIN WITHOUT WO WOLOSO WOMAN WOMANS WON WOO WOOD",
    "WOODS-CREE WOOL WORD WORK WRENCH WRINKLED WRINKLES WRIST WRITING WU WUE WUO WV WYNN X XA XAN",
    "XE XEH XI XO XVA XW XYA XYE Y Y-CREE YA YA-YO YAA YAE YAGH YAH YAJ YAJURVEDIC YAK YAKH YAM",
    "YAN YANG YAP YAQ YAR YAT YATI YAWN YAY YAZ YAZH YE YEAR YEE YEH YELLOW YEN YENISEI YEO",
    "YEORINHIEUH YER YERI YERU YESIEUNG YESIEUNG-PANSIOS YESIEUNG-SIOS YESTU YEZIDI YFESIS YHE YI",
    "YIDDISH YIE YIG YIN YIT YIWN YN YO YO-I YO-YA YO-YAE YOD YODH YOGH YOO YOQ YOT YPOGEGRAMMENI",
    "YR YU YU-I YU-YE YU-YEO YUJ YUM YUOP YUQ YUS YUT YUWOQ YV YWA YWAA YWE YWI YWII YWO YWOO YY",
    "YYA Z ZA ZA7 ZAA ZADERZHKA ZAH ZAIN ZAL ZAPYATAYA ZAPYATOY ZATA ZAYIN ZAYN ZE ZEE ZEMLJA",
    "ZEMLYA ZEN ZERO ZETA ZHA ZHAR ZHE ZHEE ZHI ZHIVETE ZHO ZHU ZHWE ZI ZIDA ZIGZAG ZIZ2 ZJE ZLA",
    "ZNAMENNY ZO ZOO ZOT ZU ZU5 ZUP ZUR ZY ZZA ZZE ZZI ZZIET ZZO ZZU"]

end ModuleDocs.CharacterName
