import ClassDiagram.Text.CharName.Basic

/-!
# Names of South Asian letters

The scripts of India and its neighbours, from Devanagari to Thai and Tibetan.
-/
namespace ClassDiagram.Text

def southAsianNames : List CharNames := [
  ⟨0x900, "DEVANAGARI SIGN ", "INVERTED CANDRABINDU,CANDRABINDU,ANUSVARA,VISARGA"⟩,
  ⟨0x904, "DEVANAGARI LETTER ", "SHORT A,A,AA,I,II,U,UU,VOCALIC R,VOCALIC L,CANDRA E,SHORT E,E,AI,
CANDRA O,SHORT O,O,AU,KA,KHA,GA,GHA,NGA,CA,CHA,JA,JHA,NYA,TTA,TTHA,DDA,DDHA,NNA,TA,THA,DA,DHA,NA,
NNNA,PA,PHA,BA,BHA,MA,YA,RA,RRA,LA,LLA,LLLA,VA,SHA,SSA,SA,HA"⟩,
  ⟨0x93a, "DEVANAGARI ", "VOWEL SIGN OE,VOWEL SIGN OOE,SIGN NUKTA,SIGN AVAGRAHA"⟩,
  ⟨0x93e, "DEVANAGARI VOWEL SIGN ", "AA,I,II,U,UU,VOCALIC R,VOCALIC RR,CANDRA E,SHORT E,E,AI,
CANDRA O,SHORT O,O,AU"⟩,
  ⟨0x94d, "DEVANAGARI ", "SIGN VIRAMA,VOWEL SIGN PRISHTHAMATRA E,VOWEL SIGN AW,OM,
STRESS SIGN UDATTA,STRESS SIGN ANUDATTA,GRAVE ACCENT,ACUTE ACCENT,VOWEL SIGN CANDRA LONG E,
VOWEL SIGN UE,VOWEL SIGN UUE,LETTER QA,LETTER KHHA,LETTER GHHA,LETTER ZA,LETTER DDDHA,LETTER RHA,
LETTER FA,LETTER YYA,LETTER VOCALIC RR,LETTER VOCALIC LL,VOWEL SIGN VOCALIC L,VOWEL SIGN VOCALIC LL,
DANDA,DOUBLE DANDA,DIGIT ZERO,DIGIT ONE,DIGIT TWO,DIGIT THREE,DIGIT FOUR,DIGIT FIVE,DIGIT SIX,
DIGIT SEVEN,DIGIT EIGHT,DIGIT NINE,ABBREVIATION SIGN,SIGN HIGH SPACING DOT"⟩,
  ⟨0x972, "DEVANAGARI LETTER ", "CANDRA A,OE,OOE,AW,UE,UUE,MARWARI DDA,ZHA,HEAVY YA,GGA,JJA,
GLOTTAL STOP,DDDA,BBA"⟩,
  ⟨0x980, "BENGALI ", "ANJI,SIGN CANDRABINDU,SIGN ANUSVARA,SIGN VISARGA"⟩,
  ⟨0x985, "BENGALI LETTER ", "A,AA,I,II,U,UU,VOCALIC R,VOCALIC L,,,E,AI,,,O,AU,KA,KHA,GA,GHA,NGA,CA,
CHA,JA,JHA,NYA,TTA,TTHA,DDA,DDHA,NNA,TA,THA,DA,DHA,NA,,PA,PHA,BA,BHA,MA,YA,RA,,LA,,,,SHA,SSA,SA,
HA"⟩,
  ⟨0x9bc, "BENGALI SIGN ", "NUKTA,AVAGRAHA"⟩,
  ⟨0x9be, "BENGALI VOWEL SIGN ", "AA,I,II,U,UU,VOCALIC R,VOCALIC RR,,,E,AI,,,O,AU"⟩,
  ⟨0x9cd, "BENGALI ", "SIGN VIRAMA,LETTER KHANDA TA,,,,,,,,,AU LENGTH MARK,,,,,LETTER RRA,
LETTER RHA,,LETTER YYA,LETTER VOCALIC RR,LETTER VOCALIC LL,VOWEL SIGN VOCALIC L,
VOWEL SIGN VOCALIC LL,,,DIGIT ZERO,DIGIT ONE,DIGIT TWO,DIGIT THREE,DIGIT FOUR,DIGIT FIVE,DIGIT SIX,
DIGIT SEVEN,DIGIT EIGHT,DIGIT NINE,LETTER RA WITH MIDDLE DIAGONAL,LETTER RA WITH LOWER DIAGONAL,
RUPEE MARK,RUPEE SIGN"⟩,
  ⟨0x9f4, "BENGALI CURRENCY NUMERATOR ", "ONE,TWO,THREE,FOUR,ONE LESS THAN THE DENOMINATOR"⟩,
  ⟨0x9f9, "BENGALI ", "CURRENCY DENOMINATOR SIXTEEN,ISSHAR,GANDA MARK,LETTER VEDIC ANUSVARA,
ABBREVIATION SIGN,SANDHI MARK"⟩,
  ⟨0xa01, "GURMUKHI SIGN ", "ADAK BINDI,BINDI,VISARGA"⟩,
  ⟨0xa05, "GURMUKHI LETTER ", "A,AA,I,II,U,UU,,,,,EE,AI,,,OO,AU,KA,KHA,GA,GHA,NGA,CA,CHA,JA,JHA,NYA,
TTA,TTHA,DDA,DDHA,NNA,TA,THA,DA,DHA,NA,,PA,PHA,BA,BHA,MA,YA,RA,,LA,LLA,,VA,SHA,,SA,HA"⟩,
  ⟨0xa3c, "GURMUKHI SIGN ", "NUKTA"⟩,
  ⟨0xa3e, "GURMUKHI VOWEL SIGN ", "AA,I,II,U,UU,,,,,EE,AI,,,OO,AU"⟩,
  ⟨0xa4d, "GURMUKHI SIGN ", "VIRAMA,,,,UDAAT"⟩,
  ⟨0xa59, "GURMUKHI LETTER ", "KHHA,GHHA,ZA,RRA,,FA"⟩,
  ⟨0xa66, "GURMUKHI DIGIT ", "ZERO,ONE,TWO,THREE,FOUR,FIVE,SIX,SEVEN,EIGHT,NINE"⟩,
  ⟨0xa70, "GURMUKHI ", "TIPPI,ADDAK,IRI,URA,EK ONKAR,SIGN YAKASH,ABBREVIATION SIGN"⟩,
  ⟨0xa81, "GUJARATI ", "SIGN CANDRABINDU,SIGN ANUSVARA,SIGN VISARGA,,LETTER A,LETTER AA,LETTER I,
LETTER II,LETTER U,LETTER UU,LETTER VOCALIC R,LETTER VOCALIC L,VOWEL CANDRA E,,LETTER E,LETTER AI,
VOWEL CANDRA O"⟩,
  ⟨0xa93, "GUJARATI LETTER ", "O,AU,KA,KHA,GA,GHA,NGA,CA,CHA,JA,JHA,NYA,TTA,TTHA,DDA,DDHA,NNA,TA,
THA,DA,DHA,NA,,PA,PHA,BA,BHA,MA,YA,RA,,LA,LLA,,VA,SHA,SSA,SA,HA"⟩,
  ⟨0xabc, "GUJARATI SIGN ", "NUKTA,AVAGRAHA"⟩,
  ⟨0xabe, "GUJARATI VOWEL SIGN ", "AA,I,II,U,UU,VOCALIC R,VOCALIC RR,CANDRA E,,E,AI,CANDRA O,,O,
AU"⟩,
  ⟨0xacd, "GUJARATI ", "SIGN VIRAMA,,,OM"⟩,
  ⟨0xae0, "GUJARATI ", "LETTER VOCALIC RR,LETTER VOCALIC LL,VOWEL SIGN VOCALIC L,
VOWEL SIGN VOCALIC LL,,,DIGIT ZERO,DIGIT ONE,DIGIT TWO,DIGIT THREE,DIGIT FOUR,DIGIT FIVE,DIGIT SIX,
DIGIT SEVEN,DIGIT EIGHT,DIGIT NINE,ABBREVIATION SIGN,RUPEE SIGN,,,,,,,,LETTER ZHA,SIGN SUKUN,
SIGN SHADDA,SIGN MADDAH,SIGN THREE-DOT NUKTA ABOVE,SIGN CIRCLE NUKTA ABOVE,
SIGN TWO-CIRCLE NUKTA ABOVE"⟩,
  ⟨0xb01, "ORIYA SIGN ", "CANDRABINDU,ANUSVARA,VISARGA"⟩,
  ⟨0xb05, "ORIYA LETTER ", "A,AA,I,II,U,UU,VOCALIC R,VOCALIC L,,,E,AI,,,O,AU,KA,KHA,GA,GHA,NGA,CA,
CHA,JA,JHA,NYA,TTA,TTHA,DDA,DDHA,NNA,TA,THA,DA,DHA,NA,,PA,PHA,BA,BHA,MA,YA,RA,,LA,LLA,,VA,SHA,SSA,
SA,HA"⟩,
  ⟨0xb3c, "ORIYA SIGN ", "NUKTA,AVAGRAHA"⟩,
  ⟨0xb3e, "ORIYA VOWEL SIGN ", "AA,I,II,U,UU,VOCALIC R,VOCALIC RR,,,E,AI,,,O,AU"⟩,
  ⟨0xb4d, "ORIYA ", "SIGN VIRAMA,,,,,,,,SIGN OVERLINE,AI LENGTH MARK,AU LENGTH MARK,,,,,LETTER RRA,
LETTER RHA,,LETTER YYA,LETTER VOCALIC RR,LETTER VOCALIC LL,VOWEL SIGN VOCALIC L,
VOWEL SIGN VOCALIC LL,,,DIGIT ZERO,DIGIT ONE,DIGIT TWO,DIGIT THREE,DIGIT FOUR,DIGIT FIVE,DIGIT SIX,
DIGIT SEVEN,DIGIT EIGHT,DIGIT NINE,ISSHAR,LETTER WA"⟩,
  ⟨0xb72, "ORIYA FRACTION ", "ONE QUARTER,ONE HALF,THREE QUARTERS,ONE SIXTEENTH,ONE EIGHTH,
THREE SIXTEENTHS"⟩,
  ⟨0xb82, "TAMIL SIGN ", "ANUSVARA,VISARGA"⟩,
  ⟨0xb85, "TAMIL LETTER ", "A,AA,I,II,U,UU,,,,E,EE,AI,,O,OO,AU,KA,,,,NGA,CA,,JA,,NYA,TTA,,,,NNA,TA,,
,,NA,NNNA,PA,,,,MA,YA,RA,RRA,LA,LLA,LLLA,VA,SHA,SSA,SA,HA"⟩,
  ⟨0xbbe, "TAMIL VOWEL SIGN ", "AA,I,II,U,UU,,,,E,EE,AI,,O,OO,AU"⟩,
  ⟨0xbcd, "TAMIL ", "SIGN VIRAMA,,,OM,,,,,,,AU LENGTH MARK"⟩,
  ⟨0xbe6, "TAMIL DIGIT ", "ZERO,ONE,TWO,THREE,FOUR,FIVE,SIX,SEVEN,EIGHT,NINE"⟩,
  ⟨0xbf0, "TAMIL ", "NUMBER TEN,NUMBER ONE HUNDRED,NUMBER ONE THOUSAND,DAY SIGN,MONTH SIGN,
YEAR SIGN,DEBIT SIGN,CREDIT SIGN,AS ABOVE SIGN,RUPEE SIGN,NUMBER SIGN"⟩,
  ⟨0xc00, "TELUGU SIGN ", "COMBINING CANDRABINDU ABOVE,CANDRABINDU,ANUSVARA,VISARGA,
COMBINING ANUSVARA ABOVE"⟩,
  ⟨0xc05, "TELUGU LETTER ", "A,AA,I,II,U,UU,VOCALIC R,VOCALIC L,,E,EE,AI,,O,OO,AU,KA,KHA,GA,GHA,NGA,
CA,CHA,JA,JHA,NYA,TTA,TTHA,DDA,DDHA,NNA,TA,THA,DA,DHA,NA,,PA,PHA,BA,BHA,MA,YA,RA,RRA,LA,LLA,LLLA,VA,
SHA,SSA,SA,HA"⟩,
  ⟨0xc3c, "TELUGU SIGN ", "NUKTA,AVAGRAHA"⟩,
  ⟨0xc3e, "TELUGU VOWEL SIGN ", "AA,I,II,U,UU,VOCALIC R,VOCALIC RR,,E,EE,AI,,O,OO,AU"⟩,
  ⟨0xc4d, "TELUGU ", "SIGN VIRAMA,,,,,,,,LENGTH MARK,AI LENGTH MARK,,LETTER TSA,LETTER DZA,
LETTER RRRA,,,LETTER NAKAARA POLLU,,,LETTER VOCALIC RR,LETTER VOCALIC LL,VOWEL SIGN VOCALIC L,
VOWEL SIGN VOCALIC LL"⟩,
  ⟨0xc66, "TELUGU DIGIT ", "ZERO,ONE,TWO,THREE,FOUR,FIVE,SIX,SEVEN,EIGHT,NINE"⟩,
  ⟨0xc77, "TELUGU SIGN ", "SIDDHAM"⟩,
  ⟨0xc78, "TELUGU FRACTION DIGIT ", "ZERO FOR ODD POWERS OF FOUR,ONE FOR ODD POWERS OF FOUR,
TWO FOR ODD POWERS OF FOUR,THREE FOR ODD POWERS OF FOUR,ONE FOR EVEN POWERS OF FOUR,
TWO FOR EVEN POWERS OF FOUR,THREE FOR EVEN POWERS OF FOUR"⟩,
  ⟨0xc7f, "TELUGU SIGN ", "TUUMU"⟩,
  ⟨0xc80, "KANNADA SIGN ", "SPACING CANDRABINDU,CANDRABINDU,ANUSVARA,VISARGA,SIDDHAM"⟩,
  ⟨0xc85, "KANNADA LETTER ", "A,AA,I,II,U,UU,VOCALIC R,VOCALIC L,,E,EE,AI,,O,OO,AU,KA,KHA,GA,GHA,
NGA,CA,CHA,JA,JHA,NYA,TTA,TTHA,DDA,DDHA,NNA,TA,THA,DA,DHA,NA,,PA,PHA,BA,BHA,MA,YA,RA,RRA,LA,LLA,,VA,
SHA,SSA,SA,HA"⟩,
  ⟨0xcbc, "KANNADA SIGN ", "NUKTA,AVAGRAHA"⟩,
  ⟨0xcbe, "KANNADA VOWEL SIGN ", "AA,I,II,U,UU,VOCALIC R,VOCALIC RR,,E,EE,AI,,O,OO,AU"⟩,
  ⟨0xccd, "KANNADA ", "SIGN VIRAMA,,,,,,,,LENGTH MARK,AI LENGTH MARK,,,,,,,LETTER NAKAARA POLLU,
LETTER FA,,LETTER VOCALIC RR,LETTER VOCALIC LL,VOWEL SIGN VOCALIC L,VOWEL SIGN VOCALIC LL"⟩,
  ⟨0xce6, "KANNADA DIGIT ", "ZERO,ONE,TWO,THREE,FOUR,FIVE,SIX,SEVEN,EIGHT,NINE"⟩,
  ⟨0xcf1, "KANNADA SIGN ", "JIHVAMULIYA,UPADHMANIYA"⟩,
  ⟨0xd00, "MALAYALAM SIGN ", "COMBINING ANUSVARA ABOVE,CANDRABINDU,ANUSVARA,VISARGA"⟩,
  ⟨0xd04, "MALAYALAM LETTER ", "VEDIC ANUSVARA,A,AA,I,II,U,UU,VOCALIC R,VOCALIC L,,E,EE,AI,,O,OO,AU,
KA,KHA,GA,GHA,NGA,CA,CHA,JA,JHA,NYA,TTA,TTHA,DDA,DDHA,NNA,TA,THA,DA,DHA,NA,NNNA,PA,PHA,BA,BHA,MA,YA,
RA,RRA,LA,LLA,LLLA,VA,SHA,SSA,SA,HA,TTTA"⟩,
  ⟨0xd3b, "MALAYALAM SIGN ", "VERTICAL BAR VIRAMA,CIRCULAR VIRAMA,AVAGRAHA"⟩,
  ⟨0xd3e, "MALAYALAM VOWEL SIGN ", "AA,I,II,U,UU,VOCALIC R,VOCALIC RR,,E,EE,AI,,O,OO,AU"⟩,
  ⟨0xd4d, "MALAYALAM ", "SIGN VIRAMA,LETTER DOT REPH,SIGN PARA,,,,,LETTER CHILLU M,LETTER CHILLU Y,
LETTER CHILLU LLL,AU LENGTH MARK,FRACTION ONE ONE-HUNDRED-AND-SIXTIETH,FRACTION ONE FORTIETH,
FRACTION THREE EIGHTIETHS,FRACTION ONE TWENTIETH,FRACTION ONE TENTH,FRACTION THREE TWENTIETHS,
FRACTION ONE FIFTH,LETTER ARCHAIC II,LETTER VOCALIC RR,LETTER VOCALIC LL,VOWEL SIGN VOCALIC L,
VOWEL SIGN VOCALIC LL,,,DIGIT ZERO,DIGIT ONE,DIGIT TWO,DIGIT THREE,DIGIT FOUR,DIGIT FIVE,DIGIT SIX,
DIGIT SEVEN,DIGIT EIGHT,DIGIT NINE,NUMBER TEN,NUMBER ONE HUNDRED,NUMBER ONE THOUSAND,
FRACTION ONE QUARTER,FRACTION ONE HALF,FRACTION THREE QUARTERS,FRACTION ONE SIXTEENTH,
FRACTION ONE EIGHTH,FRACTION THREE SIXTEENTHS,DATE MARK"⟩,
  ⟨0xd7a, "MALAYALAM LETTER CHILLU ", "NN,N,RR,L,LL,K"⟩,
  ⟨0xd81, "SINHALA SIGN ", "CANDRABINDU,ANUSVARAYA,VISARGAYA"⟩,
  ⟨0xd85, "SINHALA LETTER ", "AYANNA,AAYANNA,AEYANNA,AEEYANNA,IYANNA,IIYANNA,UYANNA,UUYANNA,
IRUYANNA,IRUUYANNA,ILUYANNA,ILUUYANNA,EYANNA,EEYANNA,AIYANNA,OYANNA,OOYANNA,AUYANNA,,,,
ALPAPRAANA KAYANNA,MAHAAPRAANA KAYANNA,ALPAPRAANA GAYANNA,MAHAAPRAANA GAYANNA,KANTAJA NAASIKYAYA,
SANYAKA GAYANNA,ALPAPRAANA CAYANNA,MAHAAPRAANA CAYANNA,ALPAPRAANA JAYANNA,MAHAAPRAANA JAYANNA,
TAALUJA NAASIKYAYA,TAALUJA SANYOOGA NAAKSIKYAYA,SANYAKA JAYANNA,ALPAPRAANA TTAYANNA,
MAHAAPRAANA TTAYANNA,ALPAPRAANA DDAYANNA,MAHAAPRAANA DDAYANNA,MUURDHAJA NAYANNA,SANYAKA DDAYANNA,
ALPAPRAANA TAYANNA,MAHAAPRAANA TAYANNA,ALPAPRAANA DAYANNA,MAHAAPRAANA DAYANNA,DANTAJA NAYANNA,,
SANYAKA DAYANNA,ALPAPRAANA PAYANNA,MAHAAPRAANA PAYANNA,ALPAPRAANA BAYANNA,MAHAAPRAANA BAYANNA,
MAYANNA,AMBA BAYANNA,YAYANNA,RAYANNA,,DANTAJA LAYANNA,,,VAYANNA,TAALUJA SAYANNA,MUURDHAJA SAYANNA,
DANTAJA SAYANNA,HAYANNA,MUURDHAJA LAYANNA,FAYANNA"⟩,
  ⟨0xdca, "SINHALA SIGN AL-", "LAKUNA"⟩,
  ⟨0xdcf, "SINHALA VOWEL SIGN ", "AELA-PILLA,KETTI AEDA-PILLA,DIGA AEDA-PILLA,KETTI IS-PILLA,
DIGA IS-PILLA,KETTI PAA-PILLA,,DIGA PAA-PILLA,,GAETTA-PILLA,KOMBUVA,DIGA KOMBUVA,KOMBU DEKA,
KOMBUVA HAA AELA-PILLA,KOMBUVA HAA DIGA AELA-PILLA,KOMBUVA HAA GAYANUKITTA,GAYANUKITTA"⟩,
  ⟨0xde6, "SINHALA LITH DIGIT ", "ZERO,ONE,TWO,THREE,FOUR,FIVE,SIX,SEVEN,EIGHT,NINE"⟩,
  ⟨0xdf2, "SINHALA ", "VOWEL SIGN DIGA GAETTA-PILLA,VOWEL SIGN DIGA GAYANUKITTA,
PUNCTUATION KUNDDALIYA"⟩,
  ⟨0xe01, "THAI CHARACTER ", "KO KAI,KHO KHAI,KHO KHUAT,KHO KHWAI,KHO KHON,KHO RAKHANG,NGO NGU,
CHO CHAN,CHO CHING,CHO CHANG,SO SO,CHO CHOE,YO YING,DO CHADA,TO PATAK,THO THAN,THO NANGMONTHO,
THO PHUTHAO,NO NEN,DO DEK,TO TAO,THO THUNG,THO THAHAN,THO THONG,NO NU,BO BAIMAI,PO PLA,PHO PHUNG,
FO FA,PHO PHAN,FO FAN,PHO SAMPHAO,MO MA,YO YAK,RO RUA,RU,LO LING,LU,WO WAEN,SO SALA,SO RUSI,SO SUA,
HO HIP,LO CHULA,O ANG,HO NOKHUK,PAIYANNOI,SARA A,MAI HAN-AKAT,SARA AA,SARA AM,SARA I,SARA II,
SARA UE,SARA UEE,SARA U,SARA UU,PHINTHU"⟩,
  ⟨0xe3f, "THAI CURRENCY SYMBOL ", "BAHT"⟩,
  ⟨0xe40, "THAI CHARACTER ", "SARA E,SARA AE,SARA O,SARA AI MAIMUAN,SARA AI MAIMALAI,LAKKHANGYAO,
MAIYAMOK,MAITAIKHU,MAI EK,MAI THO,MAI TRI,MAI CHATTAWA,THANTHAKHAT,NIKHAHIT,YAMAKKAN,FONGMAN"⟩,
  ⟨0xe50, "THAI DIGIT ", "ZERO,ONE,TWO,THREE,FOUR,FIVE,SIX,SEVEN,EIGHT,NINE"⟩,
  ⟨0xe5a, "THAI CHARACTER ", "ANGKHANKHU,KHOMUT"⟩,
  ⟨0xe81, "LAO LETTER ", "KO,KHO SUNG,,KHO TAM,,PALI GHA,NGO,CO,PALI CHA,SO TAM,,PALI JHA,NYO,
PALI NYA,PALI TTA,PALI TTHA,PALI DDA,PALI DDHA,PALI NNA,DO,TO,THO SUNG,THO TAM,PALI DHA,NO,BO,PO,
PHO SUNG,FO TAM,PHO TAM,FO SUNG,PALI BHA,MO,YO,LO LING,,LO LOOT,,WO,SANSKRIT SHA,SANSKRIT SSA,
SO SUNG,HO SUNG,PALI LLA,O,HO TAM"⟩,
  ⟨0xeaf, "LAO ", "ELLIPSIS"⟩,
  ⟨0xeb0, "LAO VOWEL SIGN ", "A,MAI KAN,AA,AM,I,II,Y,YY,U,UU"⟩,
  ⟨0xeba, "LAO ", "SIGN PALI VIRAMA,VOWEL SIGN MAI KON,SEMIVOWEL SIGN LO,SEMIVOWEL SIGN NYO,,,
VOWEL SIGN E,VOWEL SIGN EI,VOWEL SIGN O,VOWEL SIGN AY,VOWEL SIGN AI,,KO LA,,TONE MAI EK,
TONE MAI THO,TONE MAI TI,TONE MAI CATAWA,CANCELLATION MARK,NIGGAHITA"⟩,
  ⟨0xed0, "LAO DIGIT ", "ZERO,ONE,TWO,THREE,FOUR,FIVE,SIX,SEVEN,EIGHT,NINE"⟩,
  ⟨0xedc, "LAO ", "HO NO,HO MO,LETTER KHMU GO,LETTER KHMU NYO"⟩,
  ⟨0xf00, "TIBETAN SYLLABLE ", "OM"⟩,
  ⟨0xf01, "TIBETAN MARK ", "GTER YIG MGO TRUNCATED A,GTER YIG MGO -UM RNAM BCAD MA,
GTER YIG MGO -UM GTER TSHEG MA,INITIAL YIG MGO MDUN MA,CLOSING YIG MGO SGAB MA,
CARET YIG MGO PHUR SHAD MA,YIG MGO TSHEG SHAD MA,SBRUL SHAD,BSKUR YIG MGO,BKA- SHOG YIG MGO,
INTERSYLLABIC TSHEG,DELIMITER TSHEG BSTAR,SHAD,NYIS SHAD,TSHEG SHAD,NYIS TSHEG SHAD,
RIN CHEN SPUNGS SHAD,RGYA GRAM SHAD,CARET -DZUD RTAGS ME LONG CAN,GTER TSHEG"⟩,
  ⟨0xf15, "TIBETAN LOGOTYPE SIGN ", "CHAD RTAGS,LHAG RTAGS"⟩,
  ⟨0xf17, "TIBETAN ASTROLOGICAL SIGN ", "SGRA GCAN -CHAR RTAGS,-KHYUD PA,SDONG TSHUGS"⟩,
  ⟨0xf1a, "TIBETAN SIGN RDEL ", "DKAR GCIG,DKAR GNYIS,DKAR GSUM,NAG GCIG,NAG GNYIS,DKAR RDEL NAG"⟩,
  ⟨0xf20, "TIBETAN DIGIT ", "ZERO,ONE,TWO,THREE,FOUR,FIVE,SIX,SEVEN,EIGHT,NINE"⟩,
  ⟨0xf2a, "TIBETAN DIGIT HALF ", "ONE,TWO,THREE,FOUR,FIVE,SIX,SEVEN,EIGHT,NINE,ZERO"⟩,
  ⟨0xf34, "TIBETAN MARK ", "BSDUS RTAGS,NGAS BZUNG NYI ZLA,CARET -DZUD RTAGS BZHI MIG CAN,
NGAS BZUNG SGOR RTAGS,CHE MGO,TSA -PHRU,GUG RTAGS GYON,GUG RTAGS GYAS,ANG KHANG GYON,
ANG KHANG GYAS"⟩,
  ⟨0xf3e, "TIBETAN SIGN ", "YAR TSHES,MAR TSHES"⟩,
  ⟨0xf40, "TIBETAN LETTER ", "KA,KHA,GA,GHA,NGA,CA,CHA,JA,,NYA,TTA,TTHA,DDA,DDHA,NNA,TA,THA,DA,DHA,
NA,PA,PHA,BA,BHA,MA,TSA,TSHA,DZA,DZHA,WA,ZHA,ZA,-A,YA,RA,LA,SHA,SSA,SA,HA,A,KSSA,FIXED-FORM RA,KKA,
RRA"⟩,
  ⟨0xf71, "TIBETAN VOWEL SIGN ", "AA,I,II,U,UU,VOCALIC R,VOCALIC RR,VOCALIC L,VOCALIC LL,E,EE,O,
OO"⟩,
  ⟨0xf7e, "TIBETAN ", "SIGN RJES SU NGA RO,SIGN RNAM BCAD,VOWEL SIGN REVERSED I,
VOWEL SIGN REVERSED II,SIGN NYI ZLA NAA DA,SIGN SNA LDAN,MARK HALANTA,MARK PALUTA,SIGN LCI RTAGS,
SIGN YANG RTAGS,SIGN LCE TSA CAN,SIGN MCHU CAN,SIGN GRU CAN RGYINGS,SIGN GRU MED RGYINGS,
SIGN INVERTED MCHU CAN,SUBJOINED SIGN LCE TSA CAN,SUBJOINED SIGN MCHU CAN,
SUBJOINED SIGN INVERTED MCHU CAN"⟩,
  ⟨0xf90, "TIBETAN SUBJOINED LETTER ", "KA,KHA,GA,GHA,NGA,CA,CHA,JA,,NYA,TTA,TTHA,DDA,DDHA,NNA,TA,
THA,DA,DHA,NA,PA,PHA,BA,BHA,MA,TSA,TSHA,DZA,DZHA,WA,ZHA,ZA,-A,YA,RA,LA,SHA,SSA,SA,HA,A,KSSA,
FIXED-FORM WA,FIXED-FORM YA,FIXED-FORM RA"⟩,
  ⟨0xfbe, "TIBETAN KU RU ", "KHA,KHA BZHI MIG CAN"⟩,
  ⟨0xfc0, "TIBETAN CANTILLATION SIGN ", "HEAVY BEAT,LIGHT BEAT,CANG TE-U,SBUB -CHAL"⟩,
  ⟨0xfc4, "TIBETAN SYMBOL ", "DRIL BU,RDO RJE,PADMA GDAN,RDO RJE RGYA GRAM,PHUR PA,NOR BU,
NOR BU NYIS -KHYIL,NOR BU GSUM -KHYIL,NOR BU BZHI -KHYIL"⟩,
  ⟨0xfce, "TIBETAN SIGN RDEL NAG ", "RDEL DKAR,GSUM"⟩,
  ⟨0xfd0, "TIBETAN MARK ", "BSKA- SHOG GI MGO RGYAN,MNYAM YIG GI MGO RGYAN,NYIS TSHEG,
INITIAL BRDA RNYING YIG MGO MDUN MA,CLOSING BRDA RNYING YIG MGO SGAB MA"⟩,
  ⟨0xfd5, "", "RIGHT-FACING SVASTI SIGN,LEFT-FACING SVASTI SIGN,RIGHT-FACING SVASTI SIGN WITH DOTS,
LEFT-FACING SVASTI SIGN WITH DOTS,TIBETAN MARK LEADING MCHAN RTAGS,
TIBETAN MARK TRAILING MCHAN RTAGS"⟩]

end ClassDiagram.Text
