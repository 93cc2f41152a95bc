/-!
# Names of characters: Asian scripts

The tables are written as `ServiceManifest.Text.listedCode?` reads them.
-/

namespace ServiceManifest.Text

/-- Names of the scripts of South Asia and Tibet. -/
def indicNames : String := "
=900;0DEVANAGARI SIGN INVERTED CANDRABINDU;2CANDRABINDU;2ANUSVARA;2VISARGA;1LETTER SHORT A;2A;2AA;
2I;2II;2U;2UU;2VOCALIC R;3L;2CANDRA E;2SHORT E;2E;2AI;2CANDRA O;2SHORT O;2O;2AU;2KA;2KHA;2GA;2GHA;
2NGA;2CA;2CHA;2JA;2JHA;2NYA;2TTA;2TTHA;2DDA;2DDHA;2NNA;2TA;2THA;2DA;2DHA;2NA;2NNNA;2PA;2PHA;2BA;
2BHA;2MA;2YA;2RA;2RRA;2LA;2LLA;2LLLA;2VA;2SHA;2SSA;2SA;2HA;1VOWEL SIGN OE;3OOE;1SIGN NUKTA;
2AVAGRAHA;1VOWEL SIGN AA;3I;3II;3U;3UU;3VOCALIC R;4RR;3CANDRA E;3SHORT E;3E;3AI;3CANDRA O;3SHORT O;
3O;3AU;1SIGN VIRAMA;1VOWEL SIGN PRISHTHAMATRA E;3AW;1OM;1STRESS SIGN UDATTA;3ANUDATTA;1GRAVE ACCENT;
1ACUTE ACCENT;1VOWEL SIGN CANDRA LONG E;3UE;3UUE;1LETTER QA;2KHHA;2GHHA;2ZA;2DDDHA;2RHA;2FA;2YYA;
2VOCALIC RR;3LL;1VOWEL SIGN VOCALIC L;4LL;1DANDA;1DOUBLE DANDA;1DIGIT ZERO;2ONE;2TWO;2THREE;2FOUR;
2FIVE;2SIX;2SEVEN;2EIGHT;2NINE;1ABBREVIATION SIGN;1SIGN HIGH SPACING DOT;1LETTER CANDRA A;2OE;2OOE;
2AW;2UE;2UUE;2MARWARI DDA;2ZHA;2HEAVY YA;2GGA;2JJA;2GLOTTAL STOP;2DDDA;2BBA;0BENGALI ANJI;
1SIGN CANDRABINDU;2ANUSVARA;2VISARGA;=985;1LETTER A;2AA;2I;2II;2U;2UU;2VOCALIC R;3L;=98F;2E;2AI;
=993;2O;2AU;2KA;2KHA;2GA;2GHA;2NGA;2CA;2CHA;2JA;2JHA;2NYA;2TTA;2TTHA;2DDA;2DDHA;2NNA;2TA;2THA;2DA;
2DHA;2NA;=9AA;2PA;2PHA;2BA;2BHA;2MA;2YA;2RA;=9B2;2LA;=9B6;2SHA;2SSA;2SA;2HA;=9BC;1SIGN NUKTA;
2AVAGRAHA;1VOWEL SIGN AA;3I;3II;3U;3UU;3VOCALIC R;4RR;=9C7;3E;3AI;=9CB;3O;3AU;1SIGN VIRAMA;
1LETTER KHANDA TA;=9D7;1AU LENGTH MARK;=9DC;1LETTER RRA;2RHA;=9DF;2YYA;2VOCALIC RR;3LL;
1VOWEL SIGN VOCALIC L;4LL;=9E6;1DIGIT ZERO;2ONE;2TWO;2THREE;2FOUR;2FIVE;2SIX;2SEVEN;2EIGHT;2NINE;
1LETTER RA WITH MIDDLE DIAGONAL;4LOWER DIAGONAL;1RUPEE MARK;2SIGN;1CURRENCY NUMERATOR ONE;3TWO;
3THREE;3FOUR;3ONE LESS THAN THE DENOMINATOR;2DENOMINATOR SIXTEEN;1ISSHAR;1GANDA MARK;
1LETTER VEDIC ANUSVARA;1ABBREVIATION SIGN;1SANDHI MARK;=A01;0GURMUKHI SIGN ADAK BINDI;2BINDI;
2VISARGA;=A05;1LETTER A;2AA;2I;2II;2U;2UU;=A0F;2EE;2AI;=A13;2OO;2AU;2KA;2KHA;2GA;2GHA;2NGA;2CA;2CHA;
2JA;2JHA;2NYA;2TTA;2TTHA;2DDA;2DDHA;2NNA;2TA;2THA;2DA;2DHA;2NA;=A2A;2PA;2PHA;2BA;2BHA;2MA;2YA;2RA;
=A32;2LA;2LLA;=A35;2VA;2SHA;=A38;2SA;2HA;=A3C;1SIGN NUKTA;=A3E;1VOWEL SIGN AA;3I;3II;3U;3UU;=A47;
3EE;3AI;=A4B;3OO;3AU;1SIGN VIRAMA;=A51;2UDAAT;=A59;1LETTER KHHA;2GHHA;2ZA;2RRA;=A5E;2FA;=A66;
1DIGIT ZERO;2ONE;2TWO;2THREE;2FOUR;2FIVE;2SIX;2SEVEN;2EIGHT;2NINE;1TIPPI;1ADDAK;1IRI;1URA;1EK ONKAR;
1SIGN YAKASH;1ABBREVIATION SIGN;=A81;0GUJARATI SIGN CANDRABINDU;2ANUSVARA;2VISARGA;=A85;1LETTER A;
2AA;2I;2II;2U;2UU;2VOCALIC R;3L;1VOWEL CANDRA E;=A8F;1LETTER E;2AI;1VOWEL CANDRA O;=A93;1LETTER O;
2AU;2KA;2KHA;2GA;2GHA;2NGA;2CA;2CHA;2JA;2JHA;2NYA;2TTA;2TTHA;2DDA;2DDHA;2NNA;2TA;2THA;2DA;2DHA;2NA;
=AAA;2PA;2PHA;2BA;2BHA;2MA;2YA;2RA;=AB2;2LA;2LLA;=AB5;2VA;2SHA;2SSA;2SA;2HA;=ABC;1SIGN NUKTA;
2AVAGRAHA;1VOWEL SIGN AA;3I;3II;3U;3UU;3VOCALIC R;4RR;3CANDRA E;=AC7;3E;3AI;3CANDRA O;=ACB;3O;3AU;
1SIGN VIRAMA;=AD0;1OM;=AE0;1LETTER VOCALIC RR;3LL;1VOWEL SIGN VOCALIC L;4LL;=AE6;1DIGIT ZERO;2ONE;
2TWO;2THREE;2FOUR;2FIVE;2SIX;2SEVEN;2EIGHT;2NINE;1ABBREVIATION SIGN;1RUPEE SIGN;=AF9;1LETTER ZHA;
1SIGN SUKUN;2SHADDA;2MADDAH;2THREE-DOT NUKTA ABOVE;2CIRCLE NUKTA ABOVE;2TWO-CIRCLE NUKTA ABOVE;=B01;
0ORIYA SIGN CANDRABINDU;2ANUSVARA;2VISARGA;=B05;1LETTER A;2AA;2I;2II;2U;2UU;2VOCALIC R;3L;=B0F;2E;
2AI;=B13;2O;2AU;2KA;2KHA;2GA;2GHA;2NGA;2CA;2CHA;2JA;2JHA;2NYA;2TTA;2TTHA;2DDA;2DDHA;2NNA;2TA;2THA;
2DA;2DHA;2NA;=B2A;2PA;2PHA;2BA;2BHA;2MA;2YA;2RA;=B32;2LA;2LLA;=B35;2VA;2SHA;2SSA;2SA;2HA;=B3C;
1SIGN NUKTA;2AVAGRAHA;1VOWEL SIGN AA;3I;3II;3U;3UU;3VOCALIC R;4RR;=B47;3E;3AI;=B4B;3O;3AU;
1SIGN VIRAMA;=B55;2OVERLINE;1AI LENGTH MARK;1AU LENGTH MARK;=B5C;1LETTER RRA;2RHA;=B5F;2YYA;
2VOCALIC RR;3LL;1VOWEL SIGN VOCALIC L;4LL;=B66;1DIGIT ZERO;2ONE;2TWO;2THREE;2FOUR;2FIVE;2SIX;2SEVEN;
2EIGHT;2NINE;1ISSHAR;1LETTER WA;1FRACTION ONE QUARTER;3HALF;2THREE QUARTERS;2ONE SIXTEENTH;3EIGHTH;
2THREE SIXTEENTHS;=B82;0TAMIL SIGN ANUSVARA;2VISARGA;=B85;1LETTER A;2AA;2I;2II;2U;2UU;=B8E;2E;2EE;
2AI;=B92;2O;2OO;2AU;2KA;=B99;2NGA;2CA;=B9C;2JA;=B9E;2NYA;2TTA;=BA3;2NNA;2TA;=BA8;2NA;2NNNA;2PA;=BAE;
2MA;2YA;2RA;2RRA;2LA;2LLA;2LLLA;2VA;2SHA;2SSA;2SA;2HA;=BBE;1VOWEL SIGN AA;3I;3II;3U;3UU;=BC6;3E;3EE;
3AI;=BCA;3O;3OO;3AU;1SIGN VIRAMA;=BD0;1OM;=BD7;1AU LENGTH MARK;=BE6;1DIGIT ZERO;2ONE;2TWO;2THREE;
2FOUR;2FIVE;2SIX;2SEVEN;2EIGHT;2NINE;1NUMBER TEN;2ONE HUNDRED;3THOUSAND;1DAY SIGN;1MONTH SIGN;
1YEAR SIGN;1DEBIT SIGN;1CREDIT SIGN;1AS ABOVE SIGN;1RUPEE SIGN;1NUMBER SIGN;=C00;
0TELUGU SIGN COMBINING CANDRABINDU ABOVE;2CANDRABINDU;2ANUSVARA;2VISARGA;2COMBINING ANUSVARA ABOVE;
1LETTER A;2AA;2I;2II;2U;2UU;2VOCALIC R;3L;=C0E;2E;2EE;2AI;=C12;2O;2OO;2AU;2KA;2KHA;2GA;2GHA;2NGA;
2CA;2CHA;2JA;2JHA;2NYA;2TTA;2TTHA;2DDA;2DDHA;2NNA;2TA;2THA;2DA;2DHA;2NA;=C2A;2PA;2PHA;2BA;2BHA;2MA;
2YA;2RA;2RRA;2LA;2LLA;2LLLA;2VA;2SHA;2SSA;2SA;2HA;=C3C;1SIGN NUKTA;2AVAGRAHA;1VOWEL SIGN AA;3I;3II;
3U;3UU;3VOCALIC R;4RR;=C46;3E;3EE;3AI;=C4A;3O;3OO;3AU;1SIGN VIRAMA;=C55;1LENGTH MARK;
1AI LENGTH MARK;=C58;1LETTER TSA;2DZA;2RRRA;=C5D;2NAKAARA POLLU;=C60;2VOCALIC RR;3LL;
1VOWEL SIGN VOCALIC L;4LL;=C66;1DIGIT ZERO;2ONE;2TWO;2THREE;2FOUR;2FIVE;2SIX;2SEVEN;2EIGHT;2NINE;
=C77;1SIGN SIDDHAM;1FRACTION DIGIT ZERO FOR ODD POWERS OF FOUR;3ONE FOR ODD POWERS OF FOUR;
3TWO FOR ODD POWERS OF FOUR;3THREE FOR ODD POWERS OF FOUR;3ONE FOR EVEN POWERS OF FOUR;
3TWO FOR EVEN POWERS OF FOUR;3THREE FOR EVEN POWERS OF FOUR;1SIGN TUUMU;
0KANNADA SIGN SPACING CANDRABINDU;2CANDRABINDU;2ANUSVARA;2VISARGA;2SIDDHAM;1LETTER A;2AA;2I;2II;2U;
2UU;2VOCALIC R;3L;=C8E;2E;2EE;2AI;=C92;2O;2OO;2AU;2KA;2KHA;2GA;2GHA;2NGA;2CA;2CHA;2JA;2JHA;2NYA;
2TTA;2TTHA;2DDA;2DDHA;2NNA;2TA;2THA;2DA;2DHA;2NA;=CAA;2PA;2PHA;2BA;2BHA;2MA;2YA;2RA;2RRA;2LA;2LLA;
=CB5;2VA;2SHA;2SSA;2SA;2HA;=CBC;1SIGN NUKTA;2AVAGRAHA;1VOWEL SIGN AA;3I;3II;3U;3UU;3VOCALIC R;4RR;
=CC6;3E;3EE;3AI;=CCA;3O;3OO;3AU;1SIGN VIRAMA;=CD5;1LENGTH MARK;1AI LENGTH MARK;=CDD;
1LETTER NAKAARA POLLU;2FA;=CE0;2VOCALIC RR;3LL;1VOWEL SIGN VOCALIC L;4LL;=CE6;1DIGIT ZERO;2ONE;2TWO;
2THREE;2FOUR;2FIVE;2SIX;2SEVEN;2EIGHT;2NINE;=CF1;1SIGN JIHVAMULIYA;2UPADHMANIYA;=D00;
0MALAYALAM SIGN COMBINING ANUSVARA ABOVE;2CANDRABINDU;2ANUSVARA;2VISARGA;1LETTER VEDIC ANUSVARA;2A;
2AA;2I;2II;2U;2UU;2VOCALIC R;3L;=D0E;2E;2EE;2AI;=D12;2O;2OO;2AU;2KA;2KHA;2GA;2GHA;2NGA;2CA;2CHA;2JA;
2JHA;2NYA;2TTA;2TTHA;2DDA;2DDHA;2NNA;2TA;2THA;2DA;2DHA;2NA;2NNNA;2PA;2PHA;2BA;2BHA;2MA;2YA;2RA;2RRA;
2LA;2LLA;2LLLA;2VA;2SHA;2SSA;2SA;2HA;2TTTA;1SIGN VERTICAL BAR VIRAMA;2CIRCULAR VIRAMA;2AVAGRAHA;
1VOWEL SIGN AA;3I;3II;3U;3UU;3VOCALIC R;4RR;=D46;3E;3EE;3AI;=D4A;3O;3OO;3AU;1SIGN VIRAMA;
1LETTER DOT REPH;1SIGN PARA;=D54;1LETTER CHILLU M;3Y;3LLL;1AU LENGTH MARK;
1FRACTION ONE ONE-HUNDRED-AND-SIXTIETH;3FORTIETH;2THREE EIGHTIETHS;2ONE TWENTIETH;3TENTH;
2THREE TWENTIETHS;2ONE FIFTH;1LETTER ARCHAIC II;2VOCALIC RR;3LL;1VOWEL SIGN VOCALIC L;4LL;=D66;
1DIGIT ZERO;2ONE;2TWO;2THREE;2FOUR;2FIVE;2SIX;2SEVEN;2EIGHT;2NINE;1NUMBER TEN;2ONE HUNDRED;
3THOUSAND;1FRACTION ONE QUARTER;3HALF;2THREE QUARTERS;2ONE SIXTEENTH;3EIGHTH;2THREE SIXTEENTHS;
1DATE MARK;1LETTER CHILLU NN;3N;3RR;3L;3LL;3K;=D81;0SINHALA SIGN CANDRABINDU;2ANUSVARAYA;2VISARGAYA;
=D85;1LETTER AYANNA;2AAYANNA;2AEYANNA;2AEEYANNA;2IYANNA;2IIYANNA;2UYANNA;2UUYANNA;2IRUYANNA;
2IRUUYANNA;2ILUYANNA;2ILUUYANNA;2EYANNA;2EEYANNA;2AIYANNA;2OYANNA;2OOYANNA;2AUYANNA;=D9A;
2ALPAPRAANA KAYANNA;2MAHAAPRAANA KAYANNA;2ALPAPRAANA GAYANNA;2MAHAAPRAANA GAYANNA;
2KANTAJA NAASIKYAYA;2SANYAKA GAYANNA;2ALPAPRAANA CAYANNA;2MAHAAPRAANA CAYANNA;2ALPAPRAANA JAYANNA;
2MAHAAPRAANA JAYANNA;2TAALUJA NAASIKYAYA;3SANYOOGA NAAKSIKYAYA;2SANYAKA JAYANNA;
2ALPAPRAANA TTAYANNA;2MAHAAPRAANA TTAYANNA;2ALPAPRAANA DDAYANNA;2MAHAAPRAANA DDAYANNA;
2MUURDHAJA NAYANNA;2SANYAKA DDAYANNA;2ALPAPRAANA TAYANNA;2MAHAAPRAANA TAYANNA;2ALPAPRAANA DAYANNA;
2MAHAAPRAANA DAYANNA;2DANTAJA NAYANNA;=DB3;2SANYAKA DAYANNA;2ALPAPRAANA PAYANNA;
2MAHAAPRAANA PAYANNA;2ALPAPRAANA BAYANNA;2MAHAAPRAANA BAYANNA;2MAYANNA;2AMBA BAYANNA;2YAYANNA;
2RAYANNA;=DBD;2DANTAJA LAYANNA;=DC0;2VAYANNA;2TAALUJA SAYANNA;2MUURDHAJA SAYANNA;2DANTAJA SAYANNA;
2HAYANNA;2MUURDHAJA LAYANNA;2FAYANNA;=DCA;1SIGN AL-LAKUNA;=DCF;1VOWEL SIGN AELA-PILLA;
3KETTI AEDA-PILLA;3DIGA AEDA-PILLA;3KETTI IS-PILLA;3DIGA IS-PILLA;3KETTI PAA-PILLA;=DD6;
3DIGA PAA-PILLA;=DD8;3GAETTA-PILLA;3KOMBUVA;3DIGA KOMBUVA;3KOMBU DEKA;3KOMBUVA HAA AELA-PILLA;
5DIGA AELA-PILLA;5GAYANUKITTA;3GAYANUKITTA;=DE6;1LITH DIGIT ZERO;3ONE;3TWO;3THREE;3FOUR;3FIVE;3SIX;
3SEVEN;3EIGHT;3NINE;=DF2;1VOWEL SIGN DIGA GAETTA-PILLA;4GAYANUKITTA;1PUNCTUATION KUNDDALIYA;=F00;
0TIBETAN SYLLABLE OM;1MARK GTER YIG MGO TRUNCATED A;5-UM RNAM BCAD MA;6GTER TSHEG MA;
2INITIAL YIG MGO MDUN MA;2CLOSING YIG MGO SGAB MA;2CARET YIG MGO PHUR SHAD MA;
2YIG MGO TSHEG SHAD MA;2SBRUL SHAD;2BSKUR YIG MGO;2BKA- SHOG YIG MGO;2INTERSYLLABIC TSHEG;
2DELIMITER TSHEG BSTAR;2SHAD;2NYIS SHAD;2TSHEG SHAD;2NYIS TSHEG SHAD;2RIN CHEN SPUNGS SHAD;
2RGYA GRAM SHAD;2CARET -DZUD RTAGS ME LONG CAN;2GTER TSHEG;1LOGOTYPE SIGN CHAD RTAGS;3LHAG RTAGS;
1ASTROLOGICAL SIGN SGRA GCAN -CHAR RTAGS;3-KHYUD PA;3SDONG TSHUGS;1SIGN RDEL DKAR GCIG;4GNYIS;4GSUM;
3NAG GCIG;4GNYIS;3DKAR RDEL NAG;1DIGIT ZERO;2ONE;2TWO;2THREE;2FOUR;2FIVE;2SIX;2SEVEN;2EIGHT;2NINE;
2HALF ONE;3TWO;3THREE;3FOUR;3FIVE;3SIX;3SEVEN;3EIGHT;3NINE;3ZERO;1MARK BSDUS RTAGS;
2NGAS BZUNG NYI ZLA;2CARET -DZUD RTAGS BZHI MIG CAN;2NGAS BZUNG SGOR RTAGS;2CHE MGO;2TSA -PHRU;
2GUG RTAGS GYON;4GYAS;2ANG KHANG GYON;4GYAS;1SIGN YAR TSHES;2MAR TSHES;1LETTER KA;2KHA;2GA;2GHA;
2NGA;2CA;2CHA;2JA;=F49;2NYA;2TTA;2TTHA;2DDA;2DDHA;2NNA;2TA;2THA;2DA;2DHA;2NA;2PA;2PHA;2BA;2BHA;2MA;
2TSA;2TSHA;2DZA;2DZHA;2WA;2ZHA;2ZA;2-A;2YA;2RA;2LA;2SHA;2SSA;2SA;2HA;2A;2KSSA;2FIXED-FORM RA;2KKA;
2RRA;=F71;1VOWEL SIGN AA;3I;3II;3U;3UU;3VOCALIC R;4RR;4L;4LL;3E;3EE;3O;3OO;1SIGN RJES SU NGA RO;
2RNAM BCAD;1VOWEL SIGN REVERSED I;4II;1SIGN NYI ZLA NAA DA;2SNA LDAN;1MARK HALANTA;2PALUTA;
1SIGN LCI RTAGS;2YANG RTAGS;2LCE TSA CAN;2MCHU CAN;2GRU CAN RGYINGS;3MED RGYINGS;2INVERTED MCHU CAN;
1SUBJOINED SIGN LCE TSA CAN;3MCHU CAN;3INVERTED MCHU CAN;2LETTER KA;3KHA;3GA;3GHA;3NGA;3CA;3CHA;3JA;
=F99;3NYA;3TTA;3TTHA;3DDA;3DDHA;3NNA;3TA;3THA;3DA;3DHA;3NA;3PA;3PHA;3BA;3BHA;3MA;3TSA;3TSHA;3DZA;
3DZHA;3WA;3ZHA;3ZA;3-A;3YA;3RA;3LA;3SHA;3SSA;3SA;3HA;3A;3KSSA;3FIXED-FORM WA;4YA;4RA;=FBE;
1KU RU KHA;4BZHI MIG CAN;1CANTILLATION SIGN HEAVY BEAT;3LIGHT BEAT;3CANG TE-U;3SBUB -CHAL;
1SYMBOL DRIL BU;2RDO RJE;2PADMA GDAN;2RDO RJE RGYA GRAM;2PHUR PA;2NOR BU;4NYIS -KHYIL;4GSUM -KHYIL;
4BZHI -KHYIL;=FCE;1SIGN RDEL NAG RDEL DKAR;4GSUM;1MARK BSKA- SHOG GI MGO RGYAN;
2MNYAM YIG GI MGO RGYAN;2NYIS TSHEG;2INITIAL BRDA RNYING YIG MGO MDUN MA;
2CLOSING BRDA RNYING YIG MGO SGAB MA;0RIGHT-FACING SVASTI SIGN;0LEFT-FACING SVASTI SIGN;
0RIGHT-FACING SVASTI SIGN WITH DOTS;0LEFT-FACING SVASTI SIGN WITH DOTS;
0TIBETAN MARK LEADING MCHAN RTAGS;2TRAILING MCHAN RTAGS;=1C00;0LEPCHA LETTER KA;2KLA;2KHA;2GA;2GLA;
2NGA;2CA;2CHA;2JA;2NYA;2TA;2THA;2DA;2NA;2PA;2PLA;2PHA;2FA;2FLA;2BA;2BLA;2MA;2MLA;2TSA;2TSHA;2DZA;
2YA;2RA;2LA;2HA;2HLA;2VA;2SA;2SHA;2WA;2A;1SUBJOINED LETTER YA;3RA;1VOWEL SIGN AA;3I;3O;3OO;3U;3UU;
3E;1CONSONANT SIGN K;3M;3L;3N;3P;3R;3T;3NYIN-DO;3KANG;1SIGN RAN;2NUKTA;=1C3B;1PUNCTUATION TA-ROL;
2NYET THYOOM TA-ROL;2CER-WA;2TSHOOK CER-WA;2TSHOOK;1DIGIT ZERO;2ONE;2TWO;2THREE;2FOUR;2FIVE;2SIX;
2SEVEN;2EIGHT;2NINE;=1C4D;1LETTER TTA;2TTHA;2DDA;0OL CHIKI DIGIT ZERO;3ONE;3TWO;3THREE;3FOUR;3FIVE;
3SIX;3SEVEN;3EIGHT;3NINE;2LETTER LA;3AT;3AG;3ANG;3AL;3LAA;3AAK;3AAJ;3AAM;3AAW;3LI;3IS;3IH;3INY;3IR;
3LU;3UC;3UD;3UNN;3UY;3LE;3EP;3EDD;3EN;3ERR;3LO;3OTT;3OB;3OV;3OH;2MU TTUDDAG;2GAAHLAA TTUDDAAG;
2MU-GAAHLAA TTUDDAAG;2RELAA;2PHAARKAA;2AHAD;2PUNCTUATION MUCAAD;3DOUBLE MUCAAD;=1CC0;
0SUNDANESE PUNCTUATION BINDU SURYA;3PANGLONG;3PURNAMA;3CAKRA;3LEU SATANGA;3KA SATANGA;3DA SATANGA;
3BA SATANGA;=1CD0;0VEDIC TONE KARSHANA;2SHARA;2PRENKHA;1SIGN NIHSHVASA;2YAJURVEDIC MIDLINE SVARITA;
1TONE YAJURVEDIC AGGRAVATED INDEPENDENT SVARITA;3INDEPENDENT SVARITA;3KATHAKA INDEPENDENT SVARITA;
2CANDRA BELOW;2YAJURVEDIC KATHAKA INDEPENDENT SVARITA SCHROEDER;2DOUBLE SVARITA;2TRIPLE SVARITA;
2KATHAKA ANUDATTA;2DOT BELOW;2TWO DOTS BELOW;2THREE DOTS BELOW;
2RIGVEDIC KASHMIRI INDEPENDENT SVARITA;2ATHARVAVEDIC INDEPENDENT SVARITA;1SIGN VISARGA SVARITA;
3UDATTA;2REVERSED VISARGA UDATTA;2VISARGA ANUDATTA;2REVERSED VISARGA ANUDATTA;
2VISARGA UDATTA WITH TAIL;3ANUDATTA WITH TAIL;2ANUSVARA ANTARGOMUKHA;3BAHIRGOMUKHA;3VAMAGOMUKHA;
4WITH TAIL;2TIRYAK;2HEXIFORM LONG ANUSVARA;2LONG ANUSVARA;2RTHANG LONG ANUSVARA;
2ANUSVARA UBHAYATO MUKHA;2ARDHAVISARGA;2ROTATED ARDHAVISARGA;1TONE CANDRA ABOVE;1SIGN JIHVAMULIYA;
2UPADHMANIYA;2ATIKRAMA;1TONE RING ABOVE;2DOUBLE RING ABOVE;1SIGN DOUBLE ANUSVARA ANTARGOMUKHA;=A800;
0SYLOTI NAGRI LETTER A;3I;2SIGN DVISVARA;2LETTER U;3E;3O;2SIGN HASANTA;2LETTER KO;3KHO;3GO;3GHO;
2SIGN ANUSVARA;2LETTER CO;3CHO;3JO;3JHO;3TTO;3TTHO;3DDO;3DDHO;3TO;3THO;3DO;3DHO;3NO;3PO;3PHO;3BO;
3BHO;3MO;3RO;3LO;3RRO;3SO;3HO;2VOWEL SIGN A;4I;4U;4E;4OO;2POETRY MARK-1;3MARK-2;3MARK-3;3MARK-4;
2SIGN ALTERNATE HASANTA;=A830;0NORTH INDIC FRACTION ONE QUARTER;4HALF;3THREE QUARTERS;
3ONE SIXTEENTH;4EIGHTH;3THREE SIXTEENTHS;2QUARTER MARK;2PLACEHOLDER MARK;2RUPEE MARK;2QUANTITY MARK;
=A840;0PHAGS-PA LETTER KA;2KHA;2GA;2NGA;2CA;2CHA;2JA;2NYA;2TA;2THA;2DA;2NA;2PA;2PHA;2BA;2MA;2TSA;
2TSHA;2DZA;2WA;2ZHA;2ZA;2SMALL A;2YA;2RA;2LA;2SHA;2SA;2HA;2A;2I;2U;2E;2O;2QA;2XA;2FA;2GGA;2EE;
1SUBJOINED LETTER WA;3YA;1LETTER TTA;2TTHA;2DDA;2NNA;2ALTERNATE YA;2VOICELESS SHA;2VOICED HA;
2ASPIRATED FA;1SUBJOINED LETTER RA;1SUPERFIXED LETTER RA;1LETTER CANDRABINDU;1SINGLE HEAD MARK;
1DOUBLE HEAD MARK;1MARK SHAD;2DOUBLE SHAD;=A880;0SAURASHTRA SIGN ANUSVARA;2VISARGA;1LETTER A;2AA;2I;
2II;2U;2UU;2VOCALIC R;3RR;3L;3LL;2E;2EE;2AI;2O;2OO;2AU;2KA;2KHA;2GA;2GHA;2NGA;2CA;2CHA;2JA;2JHA;
2NYA;2TTA;2TTHA;2DDA;2DDHA;2NNA;2TA;2THA;2DA;2DHA;2NA;2PA;2PHA;2BA;2BHA;2MA;2YA;2RA;2LA;2VA;2SHA;
2SSA;2SA;2HA;2LLA;1CONSONANT SIGN HAARU;1VOWEL SIGN AA;3I;3II;3U;3UU;3VOCALIC R;4RR;4L;4LL;3E;3EE;
3AI;3O;3OO;3AU;1SIGN VIRAMA;2CANDRABINDU;=A8CE;1DANDA;1DOUBLE DANDA;1DIGIT ZERO;2ONE;2TWO;2THREE;
2FOUR;2FIVE;2SIX;2SEVEN;2EIGHT;2NINE;=A8E0;0COMBINING DEVANAGARI DIGIT ZERO;3ONE;3TWO;3THREE;3FOUR;
3FIVE;3SIX;3SEVEN;3EIGHT;3NINE;2LETTER A;3U;3KA;3NA;3PA;3RA;3VI;2SIGN AVAGRAHA;
0DEVANAGARI SIGN SPACING CANDRABINDU;2CANDRABINDU VIRAMA;2DOUBLE CANDRABINDU VIRAMA;
2CANDRABINDU TWO;3THREE;3AVAGRAHA;2PUSHPIKA;1GAP FILLER;1CARET;1HEADSTROKE;1SIGN SIDDHAM;1JAIN OM;
1LETTER AY;1VOWEL SIGN AY;=AAE0;0MEETEI MAYEK LETTER E;3O;3CHA;3NYA;3TTA;3TTHA;3DDA;3DDHA;3NNA;3SHA;
3SSA;2VOWEL SIGN II;4UU;4AAI;4AU;4AAU;2CHEIKHAN;2AHANG KHUDAM;2ANJI;2SYLLABLE REPETITION MARK;
2WORD REPETITION MARK;2VOWEL SIGN VISARGA;2VIRAMA;=ABC0;2LETTER KOK;3SAM;3LAI;3MIT;3PA;3NA;3CHIL;
3TIL;3KHOU;3NGOU;3THOU;3WAI;3YANG;3HUK;3UN;3I;3PHAM;3ATIYA;3GOK;3JHAM;3RAI;3BA;3JIL;3DIL;3GHOU;
3DHOU;3BHAM;3KOK LONSUM;3LAI LONSUM;3MIT LONSUM;3PA LONSUM;3NA LONSUM;3TIL LONSUM;3NGOU LONSUM;
3I LONSUM;2VOWEL SIGN ONAP;4INAP;4ANAP;4YENAP;4SOUNAP;4UNAP;4CHEINAP;4NUNG;2CHEIKHEI;2LUM IYEK;
2APUN IYEK;=ABF0;2DIGIT ZERO;3ONE;3TWO;3THREE;3FOUR;3FIVE;3SIX;3SEVEN;3EIGHT;3NINE;=11000;
0BRAHMI SIGN CANDRABINDU;2ANUSVARA;2VISARGA;2JIHVAMULIYA;2UPADHMANIYA;1LETTER A;2AA;2I;2II;2U;2UU;
2VOCALIC R;3RR;3L;3LL;2E;2AI;2O;2AU;2KA;2KHA;2GA;2GHA;2NGA;2CA;2CHA;2JA;2JHA;2NYA;2TTA;2TTHA;2DDA;
2DDHA;2NNA;2TA;2THA;2DA;2DHA;2NA;2PA;2PHA;2BA;2BHA;2MA;2YA;2RA;2LA;2VA;2SHA;2SSA;2SA;2HA;2LLA;
2OLD TAMIL LLLA;4RRA;4NNNA;1VOWEL SIGN AA;3BHATTIPROLU AA;3I;3II;3U;3UU;3VOCALIC R;4RR;4L;4LL;3E;
3AI;3O;3AU;1VIRAMA;1DANDA;1DOUBLE DANDA;1PUNCTUATION DOT;2DOUBLE DOT;2LINE;2CRESCENT BAR;2LOTUS;
=11052;1NUMBER ONE;2TWO;2THREE;2FOUR;2FIVE;2SIX;2SEVEN;2EIGHT;2NINE;2TEN;2TWENTY;2THIRTY;2FORTY;
2FIFTY;2SIXTY;2SEVENTY;2EIGHTY;2NINETY;2ONE HUNDRED;3THOUSAND;1DIGIT ZERO;2ONE;2TWO;2THREE;2FOUR;
2FIVE;2SIX;2SEVEN;2EIGHT;2NINE;1SIGN OLD TAMIL VIRAMA;1LETTER OLD TAMIL SHORT E;5O;
1VOWEL SIGN OLD TAMIL SHORT E;6O;1LETTER OLD TAMIL LLA;=1107F;1NUMBER JOINER;
0KAITHI SIGN CANDRABINDU;2ANUSVARA;2VISARGA;1LETTER A;2AA;2I;2II;2U;2UU;2E;2AI;2O;2AU;2KA;2KHA;2GA;
2GHA;2NGA;2CA;2CHA;2JA;2JHA;2NYA;2TTA;2TTHA;2DDA;2DDDHA;2DDHA;2RHA;2NNA;2TA;2THA;2DA;2DHA;2NA;2PA;
2PHA;2BA;2BHA;2MA;2YA;2RA;2LA;2VA;2SHA;2SSA;2SA;2HA;1VOWEL SIGN AA;3I;3II;3U;3UU;3E;3AI;3O;3AU;
1SIGN VIRAMA;2NUKTA;1ABBREVIATION SIGN;1ENUMERATION SIGN;1NUMBER SIGN;1SECTION MARK;
1DOUBLE SECTION MARK;1DANDA;1DOUBLE DANDA;1VOWEL SIGN VOCALIC R;=110CD;1NUMBER SIGN ABOVE;=110D0;
0SORA SOMPENG LETTER SAH;3TAH;3BAH;3CAH;3DAH;3GAH;3MAH;3NGAH;3LAH;3NAH;3VAH;3PAH;3YAH;3RAH;3HAH;
3KAH;3JAH;3NYAH;3AH;3EEH;3IH;3UH;3OH;3EH;3MAE;=110F0;2DIGIT ZERO;3ONE;3TWO;3THREE;3FOUR;3FIVE;3SIX;
3SEVEN;3EIGHT;3NINE;=11100;0CHAKMA SIGN CANDRABINDU;2ANUSVARA;2VISARGA;1LETTER AA;2I;2U;2E;2KAA;
2KHAA;2GAA;2GHAA;2NGAA;2CAA;2CHAA;2JAA;2JHAA;2NYAA;2TTAA;2TTHAA;2DDAA;2DDHAA;2NNAA;2TAA;2THAA;2DAA;
2DHAA;2NAA;2PAA;2PHAA;2BAA;2BHAA;2MAA;2YYAA;2YAA;2RAA;2LAA;2WAA;2SAA;2HAA;1VOWEL SIGN A;3I;3II;3U;
3UU;3E;3AI;3O;3AU;3OI;1O MARK;1AU MARK;1VIRAMA;1MAAYYAA;=11136;1DIGIT ZERO;2ONE;2TWO;2THREE;2FOUR;
2FIVE;2SIX;2SEVEN;2EIGHT;2NINE;1SECTION MARK;1DANDA;1DOUBLE DANDA;1QUESTION MARK;1LETTER LHAA;
1VOWEL SIGN AA;3EI;1LETTER VAA;=11150;0MAHAJANI LETTER A;2I;2U;2E;2O;2KA;2KHA;2GA;2GHA;2CA;2CHA;2JA;
2JHA;2NYA;2TTA;2TTHA;2DDA;2DDHA;2NNA;2TA;2THA;2DA;2DHA;2NA;2PA;2PHA;2BA;2BHA;2MA;2RA;2LA;2VA;2SA;
2HA;2RRA;1SIGN NUKTA;1ABBREVIATION SIGN;1SECTION MARK;1LIGATURE SHRI;=11180;
0SHARADA SIGN CANDRABINDU;2ANUSVARA;2VISARGA;1LETTER A;2AA;2I;2II;2U;2UU;2VOCALIC R;3RR;3L;3LL;2E;
2AI;2O;2AU;2KA;2KHA;2GA;2GHA;2NGA;2CA;2CHA;2JA;2JHA;2NYA;2TTA;2TTHA;2DDA;2DDHA;2NNA;2TA;2THA;2DA;
2DHA;2NA;2PA;2PHA;2BA;2BHA;2MA;2YA;2RA;2LA;2LLA;2VA;2SHA;2SSA;2SA;2HA;1VOWEL SIGN AA;3I;3II;3U;3UU;
3VOCALIC R;4RR;4L;4LL;3E;3AI;3O;3AU;1SIGN VIRAMA;2AVAGRAHA;2JIHVAMULIYA;2UPADHMANIYA;1OM;1DANDA;
1DOUBLE DANDA;1ABBREVIATION SIGN;1SEPARATOR;1SANDHI MARK;1SIGN NUKTA;1VOWEL MODIFIER MARK;
1EXTRA SHORT VOWEL MARK;1SUTRA MARK;1VOWEL SIGN PRISHTHAMATRA E;1SIGN INVERTED CANDRABINDU;
1DIGIT ZERO;2ONE;2TWO;2THREE;2FOUR;2FIVE;2SIX;2SEVEN;2EIGHT;2NINE;1EKAM;1SIGN SIDDHAM;1HEADSTROKE;
1CONTINUATION SIGN;1SECTION MARK-1;2MARK-2;=111E1;0SINHALA ARCHAIC DIGIT ONE;3TWO;3THREE;3FOUR;
3FIVE;3SIX;3SEVEN;3EIGHT;3NINE;2NUMBER TEN;3TWENTY;3THIRTY;3FORTY;3FIFTY;3SIXTY;3SEVENTY;3EIGHTY;
3NINETY;3ONE HUNDRED;4THOUSAND;=11200;0KHOJKI LETTER A;2AA;2I;2U;2E;2AI;2O;2AU;2KA;2KHA;2GA;2GGA;
2GHA;2NGA;2CA;2CHA;2JA;2JJA;=11213;2NYA;2TTA;2TTHA;2DDA;2DDHA;2NNA;2TA;2THA;2DA;2DDDA;2DHA;2NA;2PA;
2PHA;2BA;2BBA;2BHA;2MA;2YA;2RA;2LA;2VA;2SA;2HA;2LLA;1VOWEL SIGN AA;3I;3II;3U;3E;3AI;3O;3AU;
1SIGN ANUSVARA;2VIRAMA;2NUKTA;2SHADDA;1DANDA;1DOUBLE DANDA;1WORD SEPARATOR;1SECTION MARK;
1DOUBLE SECTION MARK;1ABBREVIATION SIGN;1SIGN SUKUN;=11280;0MULTANI LETTER A;2I;2U;2E;2KA;2KHA;2GA;
=11288;2GHA;=1128A;2CA;2CHA;2JA;2JJA;=1128F;2NYA;2TTA;2TTHA;2DDA;2DDDA;2DDHA;2NNA;2TA;2THA;2DA;2DHA;
2NA;2PA;2PHA;2BA;=1129F;2BHA;2MA;2YA;2RA;2LA;2VA;2SA;2HA;2RRA;2RHA;1SECTION MARK;=112B0;
0KHUDAWADI LETTER A;2AA;2I;2II;2U;2UU;2E;2AI;2O;2AU;2KA;2KHA;2GA;2GGA;2GHA;2NGA;2CA;2CHA;2JA;2JJA;
2JHA;2NYA;2TTA;2TTHA;2DDA;2DDDA;2RRA;2DDHA;2NNA;2TA;2THA;2DA;2DHA;2NA;2PA;2PHA;2BA;2BBA;2BHA;2MA;
2YA;2RA;2LA;2VA;2SHA;2SA;2HA;1SIGN ANUSVARA;1VOWEL SIGN AA;3I;3II;3U;3UU;3E;3AI;3O;3AU;1SIGN NUKTA;
2VIRAMA;=112F0;1DIGIT ZERO;2ONE;2TWO;2THREE;2FOUR;2FIVE;2SIX;2SEVEN;2EIGHT;2NINE;=11300;
0GRANTHA SIGN COMBINING ANUSVARA ABOVE;2CANDRABINDU;2ANUSVARA;2VISARGA;=11305;1LETTER A;2AA;2I;2II;
2U;2UU;2VOCALIC R;3L;=1130F;2EE;2AI;=11313;2OO;2AU;2KA;2KHA;2GA;2GHA;2NGA;2CA;2CHA;2JA;2JHA;2NYA;
2TTA;2TTHA;2DDA;2DDHA;2NNA;2TA;2THA;2DA;2DHA;2NA;=1132A;2PA;2PHA;2BA;2BHA;2MA;2YA;2RA;=11332;2LA;
2LLA;=11335;2VA;2SHA;2SSA;2SA;2HA;=1133B;0COMBINING BINDU BELOW;0GRANTHA SIGN NUKTA;2AVAGRAHA;
1VOWEL SIGN AA;3I;3II;3U;3UU;3VOCALIC R;4RR;=11347;3EE;3AI;=1134B;3OO;3AU;1SIGN VIRAMA;=11350;1OM;
=11357;1AU LENGTH MARK;=1135D;1SIGN PLUTA;1LETTER VEDIC ANUSVARA;3DOUBLE ANUSVARA;2VOCALIC RR;3LL;
1VOWEL SIGN VOCALIC L;4LL;=11366;0COMBINING GRANTHA DIGIT ZERO;3ONE;3TWO;3THREE;3FOUR;3FIVE;3SIX;
=11370;2LETTER A;3KA;3NA;3VI;3PA;=11400;0NEWA LETTER A;2AA;2I;2II;2U;2UU;2VOCALIC R;3RR;3L;3LL;2E;
2AI;2O;2AU;2KA;2KHA;2GA;2GHA;2NGA;2NGHA;2CA;2CHA;2JA;2JHA;2NYA;2NYHA;2TTA;2TTHA;2DDA;2DDHA;2NNA;2TA;
2THA;2DA;2DHA;2NA;2NHA;2PA;2PHA;2BA;2BHA;2MA;2MHA;2YA;2RA;2RHA;2LA;2LHA;2WA;2SHA;2SSA;2SA;2HA;
1VOWEL SIGN AA;3I;3II;3U;3UU;3VOCALIC R;4RR;4L;4LL;3E;3AI;3O;3AU;1SIGN VIRAMA;2CANDRABINDU;
2ANUSVARA;2VISARGA;2NUKTA;2AVAGRAHA;2FINAL ANUSVARA;1OM;1SIDDHI;1DANDA;1DOUBLE DANDA;1COMMA;
1GAP FILLER;1ABBREVIATION SIGN;1DIGIT ZERO;2ONE;2TWO;2THREE;2FOUR;2FIVE;2SIX;2SEVEN;2EIGHT;2NINE;
1DOUBLE COMMA;1PLACEHOLDER MARK;=1145D;1INSERTION SIGN;1SANDHI MARK;1LETTER VEDIC ANUSVARA;
1SIGN JIHVAMULIYA;2UPADHMANIYA;=11480;0TIRHUTA ANJI;1LETTER A;2AA;2I;2II;2U;2UU;2VOCALIC R;3RR;3L;
3LL;2E;2AI;2O;2AU;2KA;2KHA;2GA;2GHA;2NGA;2CA;2CHA;2JA;2JHA;2NYA;2TTA;2TTHA;2DDA;2DDHA;2NNA;2TA;2THA;
2DA;2DHA;2NA;2PA;2PHA;2BA;2BHA;2MA;2YA;2RA;2LA;2VA;2SHA;2SSA;2SA;2HA;1VOWEL SIGN AA;3I;3II;3U;3UU;
3VOCALIC R;4RR;4L;4LL;3E;3SHORT E;3AI;3O;3SHORT O;3AU;1SIGN CANDRABINDU;2ANUSVARA;2VISARGA;2VIRAMA;
2NUKTA;2AVAGRAHA;1GVANG;1ABBREVIATION SIGN;1OM;=114D0;1DIGIT ZERO;2ONE;2TWO;2THREE;2FOUR;2FIVE;2SIX;
2SEVEN;2EIGHT;2NINE;=11580;0SIDDHAM LETTER A;2AA;2I;2II;2U;2UU;2VOCALIC R;3RR;3L;3LL;2E;2AI;2O;2AU;
2KA;2KHA;2GA;2GHA;2NGA;2CA;2CHA;2JA;2JHA;2NYA;2TTA;2TTHA;2DDA;2DDHA;2NNA;2TA;2THA;2DA;2DHA;2NA;2PA;
2PHA;2BA;2BHA;2MA;2YA;2RA;2LA;2VA;2SHA;2SSA;2SA;2HA;1VOWEL SIGN AA;3I;3II;3U;3UU;3VOCALIC R;4RR;
=115B8;3E;3AI;3O;3AU;1SIGN CANDRABINDU;2ANUSVARA;2VISARGA;2VIRAMA;2NUKTA;2SIDDHAM;1DANDA;
1DOUBLE DANDA;1SEPARATOR DOT;2BAR;1REPETITION MARK-1;2MARK-2;2MARK-3;1END OF TEXT MARK;
1SECTION MARK WITH TRIDENT AND U-SHAPED ORNAMENTS;6DOTTED CRESCENTS;4RAYS AND DOTTED CRESCENTS;
7DOUBLE CRESCENTS;7TRIPLE CRESCENTS;3DOUBLE RING;5WITH RAYS;3WITH DOUBLE CRESCENTS;
4TRIPLE CRESCENTS;4QUADRUPLE CRESCENTS;4SEPTUPLE CRESCENTS;4CIRCLES AND RAYS;6TWO ENCLOSURES;
6FOUR ENCLOSURES;1LETTER THREE-CIRCLE ALTERNATE I;2TWO-CIRCLE ALTERNATE I;4II;2ALTERNATE U;
1VOWEL SIGN ALTERNATE U;4UU;=11600;0MODI LETTER A;2AA;2I;2II;2U;2UU;2VOCALIC R;3RR;3L;3LL;2E;2AI;2O;
2AU;2KA;2KHA;2GA;2GHA;2NGA;2CA;2CHA;2JA;2JHA;2NYA;2TTA;2TTHA;2DDA;2DDHA;2NNA;2TA;2THA;2DA;2DHA;2NA;
2PA;2PHA;2BA;2BHA;2MA;2YA;2RA;2LA;2VA;2SHA;2SSA;2SA;2HA;2LLA;1VOWEL SIGN AA;3I;3II;3U;3UU;
3VOCALIC R;4RR;4L;4LL;3E;3AI;3O;3AU;1SIGN ANUSVARA;2VISARGA;2VIRAMA;2ARDHACANDRA;1DANDA;
1DOUBLE DANDA;1ABBREVIATION SIGN;1SIGN HUVA;=11650;1DIGIT ZERO;2ONE;2TWO;2THREE;2FOUR;2FIVE;2SIX;
2SEVEN;2EIGHT;2NINE;=11660;0MONGOLIAN BIRGA WITH ORNAMENT;1ROTATED BIRGA;
1DOUBLE BIRGA WITH ORNAMENT;1TRIPLE BIRGA WITH ORNAMENT;1BIRGA WITH DOUBLE ORNAMENT;
1ROTATED BIRGA WITH ORNAMENT;4DOUBLE ORNAMENT;1INVERTED BIRGA;3WITH DOUBLE ORNAMENT;1SWIRL BIRGA;
3WITH ORNAMENT;4DOUBLE ORNAMENT;1TURNED SWIRL BIRGA WITH DOUBLE ORNAMENT;=11680;0TAKRI LETTER A;2AA;
2I;2II;2U;2UU;2E;2AI;2O;2AU;2KA;2KHA;2GA;2GHA;2NGA;2CA;2CHA;2JA;2JHA;2NYA;2TTA;2TTHA;2DDA;2DDHA;
2NNA;2TA;2THA;2DA;2DHA;2NA;2PA;2PHA;2BA;2BHA;2MA;2YA;2RA;2LA;2VA;2SHA;2SA;2HA;2RRA;1SIGN ANUSVARA;
2VISARGA;1VOWEL SIGN AA;3I;3II;3U;3UU;3E;3AI;3O;3AU;1SIGN VIRAMA;2NUKTA;1LETTER ARCHAIC KHA;
1ABBREVIATION SIGN;=116C0;1DIGIT ZERO;2ONE;2TWO;2THREE;2FOUR;2FIVE;2SIX;2SEVEN;2EIGHT;2NINE;=11700;
0AHOM LETTER KA;2KHA;2NGA;2NA;2TA;2ALTERNATE TA;2PA;2PHA;2BA;2MA;2JA;2CHA;2THA;2RA;2LA;2SA;2NYA;2HA;
2A;2DA;2DHA;2GA;2ALTERNATE GA;2GHA;2BHA;2JHA;2ALTERNATE BA;=1171D;1CONSONANT SIGN MEDIAL LA;4RA;
4LIGATING RA;1VOWEL SIGN A;3AA;3I;3II;3U;3UU;3E;3AW;3O;3AI;3AM;1SIGN KILLER;=11730;1DIGIT ZERO;2ONE;
2TWO;2THREE;2FOUR;2FIVE;2SIX;2SEVEN;2EIGHT;2NINE;1NUMBER TEN;2TWENTY;1SIGN SMALL SECTION;2SECTION;
2RULAI;1SYMBOL VI;1LETTER CA;2TTA;2TTHA;2DDA;2DDHA;2NNA;2LLA;=11800;0DOGRA LETTER A;2AA;2I;2II;2U;
2UU;2E;2AI;2O;2AU;2KA;2KHA;2GA;2GHA;2NGA;2CA;2CHA;2JA;2JHA;2NYA;2TTA;2TTHA;2DDA;2DDHA;2NNA;2TA;2THA;
2DA;2DHA;2NA;2PA;2PHA;2BA;2BHA;2MA;2YA;2RA;2LA;2VA;2SHA;2SSA;2SA;2HA;2RRA;1VOWEL SIGN AA;3I;3II;3U;
3UU;3VOCALIC R;4RR;3E;3AI;3O;3AU;1SIGN ANUSVARA;2VISARGA;2VIRAMA;2NUKTA;1ABBREVIATION SIGN;=118A0;
0WARANG CITI CAPITAL LETTER NGAA;4A;4WI;4YU;4YA;4YO;4II;4UU;4E;4O;4ANG;4GA;4KO;4ENY;4YUJ;4UC;4ENN;
4ODD;4TTE;4NUNG;4DA;4AT;4AM;4BU;4PU;4HIYO;4HOLO;4HORR;4HAR;4SSUU;4SII;4VIYO;2SMALL LETTER NGAA;4A;
4WI;4YU;4YA;4YO;4II;4UU;4E;4O;4ANG;4GA;4KO;4ENY;4YUJ;4UC;4ENN;4ODD;4TTE;4NUNG;4DA;4AT;4AM;4BU;4PU;
4HIYO;4HOLO;4HORR;4HAR;4SSUU;4SII;4VIYO;2DIGIT ZERO;3ONE;3TWO;3THREE;3FOUR;3FIVE;3SIX;3SEVEN;3EIGHT;
3NINE;2NUMBER TEN;3TWENTY;3THIRTY;3FORTY;3FIFTY;3SIXTY;3SEVENTY;3EIGHTY;3NINETY;=118FF;2OM;
0DIVES AKURU LETTER A;3AA;3I;3II;3U;3UU;3E;=11909;3O;=1190C;3KA;3KHA;3GA;3GHA;3NGA;3CA;3CHA;3JA;
=11915;3NYA;3TTA;=11918;3DDA;3DDHA;3NNA;3TA;3THA;3DA;3DHA;3NA;3PA;3PHA;3BA;3BHA;3MA;3YA;3YYA;3RA;
3LA;3VA;3SHA;3SSA;3SA;3HA;3LLA;3ZA;2VOWEL SIGN AA;4I;4II;4U;4UU;4E;=11937;4AI;4O;=1193B;
2SIGN ANUSVARA;3CANDRABINDU;3HALANTA;2VIRAMA;2PREFIXED NASAL SIGN;2MEDIAL YA;2INITIAL RA;2MEDIAL RA;
2SIGN NUKTA;2DOUBLE DANDA;2GAP FILLER;2END OF TEXT MARK;=11950;2DIGIT ZERO;3ONE;3TWO;3THREE;3FOUR;
3FIVE;3SIX;3SEVEN;3EIGHT;3NINE;=119A0;0NANDINAGARI LETTER A;2AA;2I;2II;2U;2UU;2VOCALIC R;3RR;=119AA;
2E;2AI;2O;2AU;2KA;2KHA;2GA;2GHA;2NGA;2CA;2CHA;2JA;2JHA;2NYA;2TTA;2TTHA;2DDA;2DDHA;2NNA;2TA;2THA;2DA;
2DHA;2NA;2PA;2PHA;2BA;2BHA;2MA;2YA;2RA;2LA;2VA;2SHA;2SSA;2SA;2HA;2LLA;2RRA;1VOWEL SIGN AA;3I;3II;3U;
3UU;3VOCALIC R;4RR;=119DA;3E;3AI;3O;3AU;1SIGN ANUSVARA;2VISARGA;2VIRAMA;2AVAGRAHA;2SIDDHAM;
1HEADSTROKE;1VOWEL SIGN PRISHTHAMATRA E;=11A00;0ZANABAZAR SQUARE LETTER A;2VOWEL SIGN I;4UE;4U;4E;
4OE;4O;4AI;4AU;4REVERSED I;3LENGTH MARK;2LETTER KA;3KHA;3GA;3GHA;3NGA;3CA;3CHA;3JA;3NYA;3TTA;3TTHA;
3DDA;3DDHA;3NNA;3TA;3THA;3DA;3DHA;3NA;3PA;3PHA;3BA;3BHA;3MA;3TSA;3TSHA;3DZA;3DZHA;3ZHA;3ZA;3-A;3YA;
3RA;3LA;3VA;3SHA;3SSA;3SA;3HA;3KSSA;2FINAL CONSONANT MARK;2SIGN VIRAMA;3CANDRABINDU;4WITH ORNAMENT;
3CANDRA WITH ORNAMENT;3ANUSVARA;3VISARGA;2CLUSTER-INITIAL LETTER RA;2CLUSTER-FINAL LETTER YA;4RA;
4LA;4VA;2INITIAL HEAD MARK;2CLOSING HEAD MARK;2MARK TSHEG;3SHAD;3DOUBLE SHAD;3LONG TSHEG;
2INITIAL DOUBLE-LINED HEAD MARK;2CLOSING DOUBLE-LINED HEAD MARK;2SUBJOINER;=11A50;0SOYOMBO LETTER A;
1VOWEL SIGN I;3UE;3U;3E;3O;3OE;3AI;3AU;3VOCALIC R;4L;2LENGTH MARK;1LETTER KA;2KHA;2GA;2GHA;2NGA;2CA;
2CHA;2JA;2JHA;2NYA;2TTA;2TTHA;2DDA;2DDHA;2NNA;2TA;2THA;2DA;2DHA;2NA;2PA;2PHA;2BA;2BHA;2MA;2TSA;
2TSHA;2DZA;2ZHA;2ZA;2-A;2YA;2RA;2LA;2VA;2SHA;2SSA;2SA;2HA;2KSSA;1SIGN JIHVAMULIYA;2UPADHMANIYA;
1CLUSTER-INITIAL LETTER RA;3LA;3SHA;3SA;1FINAL CONSONANT SIGN G;4K;4NG;4D;4N;4B;4M;4R;4L;4SH;4S;4-A;
1SIGN ANUSVARA;2VISARGA;1GEMINATION MARK;1SUBJOINER;1MARK TSHEG;2SHAD;2DOUBLE SHAD;2PLUTA;
1HEAD MARK WITH MOON AND SUN AND TRIPLE FLAME;8FLAME;6SUN;1TERMINAL MARK-1;2MARK-2;=11AB0;
0CANADIAN SYLLABICS NATTILIK HI;3HII;3HO;3HOO;3HA;3HAA;3SHRI;3SHRII;3SHRO;3SHROO;3SHRA;3SHRAA;2SPE;
2SPI;2SPO;2SPA;0PAU CIN HAU LETTER PA;4KA;4LA;4MA;4DA;4ZA;4VA;4NGA;4HA;4GA;4KHA;4SA;4BA;4CA;4TA;
4THA;4NA;4PHA;4RA;4FA;4CHA;4A;4E;4I;4O;4U;4UA;4IA;4FINAL P;5K;5T;5M;5N;5L;5W;5NG;5Y;
3RISING TONE LONG;4TONE;3SANDHI GLOTTAL STOP;3RISING TONE LONG FINAL;5FINAL;
3SANDHI GLOTTAL STOP FINAL;4TONE LONG;4TONE;5LONG FINAL;5FINAL;3MID-LEVEL TONE;
3GLOTTAL STOP VARIANT;3MID-LEVEL TONE LONG FINAL;5FINAL;3LOW-FALLING TONE LONG;4TONE;3GLOTTAL STOP;
3LOW-FALLING TONE LONG FINAL;5FINAL;3GLOTTAL STOP FINAL;=11C00;0BHAIKSUKI LETTER A;2AA;2I;2II;2U;
2UU;2VOCALIC R;3RR;3L;=11C0A;2E;2AI;2O;2AU;2KA;2KHA;2GA;2GHA;2NGA;2CA;2CHA;2JA;2JHA;2NYA;2TTA;2TTHA;
2DDA;2DDHA;2NNA;2TA;2THA;2DA;2DHA;2NA;2PA;2PHA;2BA;2BHA;2MA;2YA;2RA;2LA;2VA;2SHA;2SSA;2SA;2HA;
1VOWEL SIGN AA;3I;3II;3U;3UU;3VOCALIC R;4RR;4L;=11C38;3E;3AI;3O;3AU;1SIGN CANDRABINDU;2ANUSVARA;
2VISARGA;2VIRAMA;2AVAGRAHA;1DANDA;1DOUBLE DANDA;1WORD SEPARATOR;1GAP FILLER-1;2FILLER-2;=11C50;
1DIGIT ZERO;2ONE;2TWO;2THREE;2FOUR;2FIVE;2SIX;2SEVEN;2EIGHT;2NINE;1NUMBER ONE;2TWO;2THREE;2FOUR;
2FIVE;2SIX;2SEVEN;2EIGHT;2NINE;2TEN;2TWENTY;2THIRTY;2FORTY;2FIFTY;2SIXTY;2SEVENTY;2EIGHTY;2NINETY;
1HUNDREDS UNIT MARK;=11C70;0MARCHEN HEAD MARK;1MARK SHAD;1LETTER KA;2KHA;2GA;2NGA;2CA;2CHA;2JA;2NYA;
2TA;2THA;2DA;2NA;2PA;2PHA;2BA;2MA;2TSA;2TSHA;2DZA;2WA;2ZHA;2ZA;2-A;2YA;2RA;2LA;2SHA;2SA;2HA;2A;
=11C92;1SUBJOINED LETTER KA;3KHA;3GA;3NGA;3CA;3CHA;3JA;3NYA;3TA;3THA;3DA;3NA;3PA;3PHA;3BA;3MA;3TSA;
3TSHA;3DZA;3WA;3ZHA;3ZA;=11CA9;3YA;3RA;3LA;3SHA;3SA;3HA;3A;1VOWEL SIGN AA;3I;3U;3E;3O;
1SIGN ANUSVARA;2CANDRABINDU;=11D00;0MASARAM GONDI LETTER A;3AA;3I;3II;3U;3UU;3E;=11D08;3AI;3O;
=11D0B;3AU;3KA;3KHA;3GA;3GHA;3NGA;3CA;3CHA;3JA;3JHA;3NYA;3TTA;3TTHA;3DDA;3DDHA;3NNA;3TA;3THA;3DA;
3DHA;3NA;3PA;3PHA;3BA;3BHA;3MA;3YA;3RA;3LA;3VA;3SHA;3SSA;3SA;3HA;3LLA;3KSSA;3JNYA;3TRA;
2VOWEL SIGN AA;4I;4II;4U;4UU;4VOCALIC R;=11D3A;4E;=11D3C;4AI;4O;=11D3F;4AU;2SIGN ANUSVARA;3VISARGA;
3NUKTA;3CANDRA;3HALANTA;2VIRAMA;2REPHA;2RA-KARA;=11D50;2DIGIT ZERO;3ONE;3TWO;3THREE;3FOUR;3FIVE;
3SIX;3SEVEN;3EIGHT;3NINE;=11D60;0GUNJALA GONDI LETTER A;3AA;3I;3II;3U;3UU;=11D67;3EE;3AI;=11D6A;3OO;
3AU;3YA;3VA;3BA;3BHA;3MA;3KA;3KHA;3TA;3THA;3LA;3GA;3GHA;3DA;3DHA;3NA;3CA;3CHA;3TTA;3TTHA;3LLA;3JA;
3JHA;3DDA;3DDHA;3NGA;3PA;3PHA;3HA;3RA;3SA;2VOWEL SIGN AA;4I;4II;4U;4UU;=11D90;4EE;4AI;=11D93;4OO;
4AU;2SIGN ANUSVARA;3VISARGA;2VIRAMA;2OM;=11DA0;2DIGIT ZERO;3ONE;3TWO;3THREE;3FOUR;3FIVE;3SIX;3SEVEN;
3EIGHT;3NINE;=11EE0;0MAKASAR LETTER KA;2GA;2NGA;2PA;2BA;2MA;2TA;2DA;2NA;2CA;2JA;2NYA;2YA;2RA;2LA;
2VA;2SA;2A;1ANGKA;1VOWEL SIGN I;3U;3E;3O;1PASSIMBANG;1END OF SECTION;=11FB0;0LISU LETTER YHA;=11FC0;
0TAMIL FRACTION ONE THREE-HUNDRED-AND-TWENTIETH;3ONE-HUNDRED-AND-SIXTIETH;3EIGHTIETH;3SIXTY-FOURTH;
3FORTIETH;3THIRTY-SECOND;2THREE EIGHTIETHS;3SIXTY-FOURTHS;2ONE TWENTIETH;3SIXTEENTH-1;3SIXTEENTH-2;
3TENTH;3EIGHTH;2THREE TWENTIETHS;3SIXTEENTHS;2ONE FIFTH;3QUARTER;3HALF-1;3HALF-2;2THREE QUARTERS;
2DOWNSCALING FACTOR KIIZH;1SIGN NEL;2CEVITU;2AAZHAAKKU;2UZHAKKU;2MUUVUZHAKKU;2KURUNI;2PATHAKKU;
2MUKKURUNI;2KAACU;2PANAM;2PON;2VARAAKAN;2PAARAM;2KUZHI;2VELI;1WET CULTIVATION SIGN;
1DRY CULTIVATION SIGN;1LAND SIGN;1SALT PAN SIGN;1TRADITIONAL CREDIT SIGN;2NUMBER SIGN;1CURRENT SIGN;
1AND ODD SIGN;1SPENT SIGN;1TOTAL SIGN;1IN POSSESSION SIGN;1STARTING FROM SIGN;1SIGN MUTHALIYA;
2VAKAIYARAA;=11FFF;1PUNCTUATION END OF TEXT;=16A40;0MRO LETTER TA;2NGI;2YO;2MIM;2BA;2DA;2A;2PHI;
2KHAI;2HAO;2DAI;2CHU;2KEAAE;2OL;2MAEM;2NIN;2PA;2OO;2O;2RO;2SHI;2THEA;2EA;2WA;2E;2KO;2LAN;2LA;2HAI;
2RI;2TEK;=16A60;1DIGIT ZERO;2ONE;2TWO;2THREE;2FOUR;2FIVE;2SIX;2SEVEN;2EIGHT;2NINE;=16A6E;1DANDA;
1DOUBLE DANDA;0TANGSA LETTER OZ;2OC;2OQ;2OX;2AZ;2AC;2AQ;2AX;2VZ;2VC;2VQ;2VX;2EZ;2EC;2EQ;2EX;2IZ;2IC;
2IQ;2IX;2UZ;2UC;2UQ;2UX;2AWZ;2AWC;2AWQ;2AWX;2UIZ;2UIC;2UIQ;2UIX;2FINAL NG;2LONG UEX;2SHORT UEZ;3AWX;
2UEC;2UEZ;2UEQ;2UEX;2UIUZ;2UIUC;2UIUQ;2UIUX;2MZ;2MC;2MQ;2MX;2KA;2KHA;2GA;2NGA;2SA;2YA;2WA;2PA;2NYA;
2PHA;2BA;2MA;2NA;2HA;2LA;2HTA;2TA;2DA;2RA;2NHA;2SHA;2CA;2TSA;2GHA;2HTTA;2THA;2XA;2FA;2DHA;2CHA;2ZA;
=16AC0;1DIGIT ZERO;2ONE;2TWO;2THREE;2FOUR;2FIVE;2SIX;2SEVEN;2EIGHT;2NINE;=16AD0;
0BASSA VAH LETTER ENNI;3KA;3SE;3FA;3MBE;3YIE;3GAH;3DHII;3KPAH;3JO;3HWAH;3WA;3ZO;3GBU;3DO;3CE;3UWU;
3TO;3BA;3VU;3YEIN;3PA;3WADDA;3A;3O;3OO;3U;3EE;3E;3I;=16AF0;2COMBINING HIGH TONE;3LOW TONE;3MID TONE;
3LOW-MID TONE;3HIGH-LOW TONE;2FULL STOP;"

/-- Names of the scripts of Southeast Asia and Mongolia. -/
def easternNames : String := "
=E01;0THAI CHARACTER KO KAI;2KHO KHAI;3KHUAT;3KHWAI;3KHON;3RAKHANG;2NGO NGU;2CHO CHAN;3CHING;3CHANG;
2SO SO;2CHO CHOE;2YO YING;2DO CHADA;2TO PATAK;2THO THAN;3NANGMONTHO;3PHUTHAO;2NO NEN;2DO DEK;
2TO TAO;2THO THUNG;3THAHAN;3THONG;2NO NU;2BO BAIMAI;2PO PLA;2PHO PHUNG;2FO FA;2PHO PHAN;2FO FAN;
2PHO SAMPHAO;2MO MA;2YO YAK;2RO RUA;2RU;2LO LING;2LU;2WO WAEN;2SO SALA;3RUSI;3SUA;2HO HIP;2LO CHULA;
2O ANG;2HO NOKHUK;2PAIYANNOI;2SARA A;2MAI HAN-AKAT;2SARA AA;3AM;3I;3II;3UE;3UEE;3U;3UU;2PHINTHU;
=E3F;1CURRENCY SYMBOL BAHT;1CHARACTER SARA E;3AE;3O;3AI MAIMUAN;4MAIMALAI;2LAKKHANGYAO;2MAIYAMOK;
2MAITAIKHU;2MAI EK;3THO;3TRI;3CHATTAWA;2THANTHAKHAT;2NIKHAHIT;2YAMAKKAN;2FONGMAN;1DIGIT ZERO;2ONE;
2TWO;2THREE;2FOUR;2FIVE;2SIX;2SEVEN;2EIGHT;2NINE;1CHARACTER ANGKHANKHU;2KHOMUT;=E81;0LAO LETTER KO;
2KHO SUNG;=E84;3TAM;=E86;2PALI GHA;2NGO;2CO;2PALI CHA;2SO TAM;=E8C;2PALI JHA;2NYO;2PALI NYA;3TTA;
3TTHA;3DDA;3DDHA;3NNA;2DO;2TO;2THO SUNG;3TAM;2PALI DHA;2NO;2BO;2PO;2PHO SUNG;2FO TAM;2PHO TAM;
2FO SUNG;2PALI BHA;2MO;2YO;2LO LING;=EA5;3LOOT;=EA7;2WO;2SANSKRIT SHA;3SSA;2SO SUNG;2HO SUNG;
2PALI LLA;2O;2HO TAM;1ELLIPSIS;1VOWEL SIGN A;3MAI KAN;3AA;3AM;3I;3II;3Y;3YY;3U;3UU;
1SIGN PALI VIRAMA;1VOWEL SIGN MAI KON;1SEMIVOWEL SIGN LO;3NYO;=EC0;1VOWEL SIGN E;3EI;3O;3AY;3AI;
=EC6;1KO LA;=EC8;1TONE MAI EK;3THO;3TI;3CATAWA;1CANCELLATION MARK;1NIGGAHITA;=ED0;1DIGIT ZERO;2ONE;
2TWO;2THREE;2FOUR;2FIVE;2SIX;2SEVEN;2EIGHT;2NINE;=EDC;1HO NO;2MO;1LETTER KHMU GO;3NYO;=1000;
0MYANMAR LETTER KA;2KHA;2GA;2GHA;2NGA;2CA;2CHA;2JA;2JHA;2NYA;2NNYA;2TTA;2TTHA;2DDA;2DDHA;2NNA;2TA;
2THA;2DA;2DHA;2NA;2PA;2PHA;2BA;2BHA;2MA;2YA;2RA;2LA;2WA;2SA;2HA;2LLA;2A;2SHAN A;2I;2II;2U;2UU;2E;
2MON E;2O;2AU;1VOWEL SIGN TALL AA;3AA;3I;3II;3U;3UU;3E;3AI;3MON II;4O;3E ABOVE;1SIGN ANUSVARA;
2DOT BELOW;2VISARGA;2VIRAMA;2ASAT;1CONSONANT SIGN MEDIAL YA;4RA;4WA;4HA;1LETTER GREAT SA;
1DIGIT ZERO;2ONE;2TWO;2THREE;2FOUR;2FIVE;2SIX;2SEVEN;2EIGHT;2NINE;1SIGN LITTLE SECTION;2SECTION;
1SYMBOL LOCATIVE;2COMPLETED;2AFOREMENTIONED;2GENITIVE;1LETTER SHA;2SSA;2VOCALIC R;3RR;3L;3LL;
1VOWEL SIGN VOCALIC R;4RR;4L;4LL;1LETTER MON NGA;3JHA;3BBA;3BBE;1CONSONANT SIGN MON MEDIAL NA;5MA;
5LA;1LETTER SGAW KAREN SHA;1VOWEL SIGN SGAW KAREN EU;1TONE MARK SGAW KAREN HATHI;5KE PHO;
1LETTER WESTERN PWO KAREN THA;5PWA;1VOWEL SIGN WESTERN PWO KAREN EU;6UE;
1SIGN WESTERN PWO KAREN TONE-1;5TONE-2;5TONE-3;5TONE-4;5TONE-5;1LETTER EASTERN PWO KAREN NNA;5YWA;
5GHWA;1VOWEL SIGN GEBA KAREN I;3KAYAH OE;4U;4EE;1LETTER SHAN KA;3KHA;3GA;3CA;3ZA;3NYA;3DA;3NA;3PHA;
3FA;3BA;3THA;3HA;1CONSONANT SIGN SHAN MEDIAL WA;1VOWEL SIGN SHAN AA;4E;5ABOVE;4FINAL Y;
1SIGN SHAN TONE-2;3TONE-3;3TONE-5;3TONE-6;3COUNCIL TONE-2;4TONE-3;4EMPHATIC TONE;
1LETTER RUMAI PALAUNG FA;1SIGN RUMAI PALAUNG TONE-5;1SHAN DIGIT ZERO;3ONE;3TWO;3THREE;3FOUR;3FIVE;
3SIX;3SEVEN;3EIGHT;3NINE;1SIGN KHAMTI TONE-1;3TONE-3;1VOWEL SIGN AITON A;4AI;1SYMBOL SHAN ONE;
3EXCLAMATION;=1700;0TAGALOG LETTER A;2I;2U;2KA;2GA;2NGA;2TA;2DA;2NA;2PA;2BA;2MA;2YA;2RA;2LA;2WA;2SA;
2HA;1VOWEL SIGN I;3U;1SIGN VIRAMA;2PAMUDPOD;=171F;1LETTER ARCHAIC RA;0HANUNOO LETTER A;2I;2U;2KA;
2GA;2NGA;2TA;2DA;2NA;2PA;2BA;2MA;2YA;2RA;2LA;2WA;2SA;2HA;1VOWEL SIGN I;3U;1SIGN PAMUDPOD;
0PHILIPPINE SINGLE PUNCTUATION;1DOUBLE PUNCTUATION;=1740;0BUHID LETTER A;2I;2U;2KA;2GA;2NGA;2TA;2DA;
2NA;2PA;2BA;2MA;2YA;2RA;2LA;2WA;2SA;2HA;1VOWEL SIGN I;3U;=1760;0TAGBANWA LETTER A;2I;2U;2KA;2GA;
2NGA;2TA;2DA;2NA;2PA;2BA;2MA;2YA;=176E;2LA;2WA;2SA;=1772;1VOWEL SIGN I;3U;=1780;0KHMER LETTER KA;
2KHA;2KO;2KHO;2NGO;2CA;2CHA;2CO;2CHO;2NYO;2DA;2TTHA;2DO;2TTHO;2NNO;2TA;2THA;2TO;2THO;2NO;2BA;2PHA;
2PO;2PHO;2MO;2YO;2RO;2LO;2VO;2SHA;2SSO;2SA;2HA;2LA;2QA;1INDEPENDENT VOWEL QAQ;3QAA;3QI;3QII;3QU;
3QUK;3QUU;3QUUV;3RY;3RYY;3LY;3LYY;3QE;3QAI;3QOO TYPE ONE;5TWO;3QAU;1VOWEL INHERENT AQ;3AA;2SIGN AA;
3I;3II;3Y;3YY;3U;3UU;3UA;3OE;3YA;3IE;3E;3AE;3AI;3OO;3AU;1SIGN NIKAHIT;2REAHMUK;2YUUKALEAPINTU;
2MUUSIKATOAN;2TRIISAP;2BANTOC;2ROBAT;2TOANDAKHIAT;2KAKABAT;2AHSDA;2SAMYOK SANNYA;2VIRIAM;2COENG;
2BATHAMASAT;2KHAN;2BARIYOOSAN;2CAMNUC PII KUUH;2LEK TOO;2BEYYAL;2PHNAEK MUAN;2KOOMUUT;
1CURRENCY SYMBOL RIEL;1SIGN AVAKRAHASANYA;2ATTHACAN;=17E0;1DIGIT ZERO;2ONE;2TWO;2THREE;2FOUR;2FIVE;
2SIX;2SEVEN;2EIGHT;2NINE;=17F0;1SYMBOL LEK ATTAK SON;4MUOY;4PII;4BEI;4BUON;4PRAM;4PRAM-MUOY;
4PRAM-PII;4PRAM-BEI;4PRAM-BUON;=1800;0MONGOLIAN BIRGA;1ELLIPSIS;1COMMA;1FULL STOP;1COLON;1FOUR DOTS;
1TODO SOFT HYPHEN;1SIBE SYLLABLE BOUNDARY MARKER;1MANCHU COMMA;2FULL STOP;1NIRUGU;
1FREE VARIATION SELECTOR ONE;4TWO;4THREE;1VOWEL SEPARATOR;1FREE VARIATION SELECTOR FOUR;1DIGIT ZERO;
2ONE;2TWO;2THREE;2FOUR;2FIVE;2SIX;2SEVEN;2EIGHT;2NINE;=1820;1LETTER A;2E;2I;2O;2U;2OE;2UE;2EE;2NA;
2ANG;2BA;2PA;2QA;2GA;2MA;2LA;2SA;2SHA;2TA;2DA;2CHA;2JA;2YA;2RA;2WA;2FA;2KA;2KHA;2TSA;2ZA;2HAA;2ZRA;
2LHA;2ZHI;2CHI;2TODO LONG VOWEL SIGN;3E;3I;3O;3U;3OE;3UE;3ANG;3BA;3PA;3QA;3GA;3MA;3TA;3DA;3CHA;3JA;
3TSA;3YA;3WA;3KA;3GAA;3HAA;3JIA;3NIA;3DZA;2SIBE E;3I;3IY;3UE;3U;3ANG;3KA;3GA;3HA;3PA;3SHA;3TA;3DA;
3JA;3FA;3GAA;3HAA;3TSA;3ZA;3RAA;3CHA;3ZHA;2MANCHU I;3KA;3RA;3FA;3ZHA;2CHA WITH TWO DOTS;=1880;
2ALI GALI ANUSVARA ONE;4VISARGA ONE;4DAMARU;4UBADAMA;4INVERTED UBADAMA;4BALUDA;4THREE BALUDA;4A;4I;
4KA;4NGA;4CA;4TTA;4TTHA;4DDA;4NNA;4TA;4DA;4PA;4PHA;4SSA;4ZHA;4ZA;4AH;2TODO ALI GALI TA;5ZHA;
2MANCHU ALI GALI GHA;5NGA;5CA;5JHA;5TTA;5DDHA;5TA;5DHA;5SSA;5CYA;5ZHA;5ZA;2ALI GALI HALF U;5YA;
2MANCHU ALI GALI BHA;2ALI GALI DAGALGA;2MANCHU ALI GALI LHA;=1900;0LIMBU VOWEL-CARRIER LETTER;
1LETTER KA;2KHA;2GA;2GHA;2NGA;2CA;2CHA;2JA;2JHA;2YAN;2TA;2THA;2DA;2DHA;2NA;2PA;2PHA;2BA;2BHA;2MA;
2YA;2RA;2LA;2WA;2SHA;2SSA;2SA;2HA;2GYAN;2TRA;=1920;1VOWEL SIGN A;3I;3U;3EE;3AI;3OO;3AU;3E;3O;
1SUBJOINED LETTER YA;3RA;3WA;=1930;1SMALL LETTER KA;3NGA;3ANUSVARA;3TA;3NA;3PA;3MA;3RA;3LA;
1SIGN MUKPHRENG;2KEMPHRENG;2SA-I;=1940;2LOO;=1944;1EXCLAMATION MARK;1QUESTION MARK;1DIGIT ZERO;2ONE;
2TWO;2THREE;2FOUR;2FIVE;2SIX;2SEVEN;2EIGHT;2NINE;0TAI LE LETTER KA;3XA;3NGA;3TSA;3SA;3YA;3TA;3THA;
3LA;3PA;3PHA;3MA;3FA;3VA;3HA;3QA;3KHA;3TSHA;3NA;3A;3I;3EE;3EH;3U;3OO;3O;3UE;3E;3AUE;3AI;=1970;
3TONE-2;3TONE-3;3TONE-4;3TONE-5;3TONE-6;=1980;0NEW TAI LUE LETTER HIGH QA;4LOW QA;4HIGH KA;5XA;5NGA;
4LOW KA;5XA;5NGA;4HIGH TSA;5SA;5YA;4LOW TSA;5SA;5YA;4HIGH TA;5THA;5NA;4LOW TA;5THA;5NA;4HIGH PA;
5PHA;5MA;4LOW PA;5PHA;5MA;4HIGH FA;5VA;5LA;4LOW FA;5VA;5LA;4HIGH HA;5DA;5BA;4LOW HA;5DA;5BA;
4HIGH KVA;5XVA;4LOW KVA;5XVA;4HIGH SUA;4LOW SUA;=19B0;3VOWEL SIGN VOWEL SHORTENER;5AA;5II;5U;5UU;5E;
5AE;5O;5OA;5UE;5AY;5AAY;5UY;5OY;5OAY;5UEY;5IY;3LETTER FINAL V;5NG;5N;5M;5K;5D;5B;3TONE MARK-1;
4MARK-2;=19D0;3DIGIT ZERO;4ONE;4TWO;4THREE;4FOUR;4FIVE;4SIX;4SEVEN;4EIGHT;4NINE;3THAM DIGIT ONE;
=19DE;3SIGN LAE;4LAEV;0KHMER SYMBOL PATHAMASAT;2MUOY KOET;2PII KOET;2BEI KOET;2BUON KOET;2PRAM KOET;
2PRAM-MUOY KOET;2PRAM-PII KOET;2PRAM-BEI KOET;2PRAM-BUON KOET;2DAP KOET;2DAP-MUOY KOET;
2DAP-PII KOET;2DAP-BEI KOET;2DAP-BUON KOET;2DAP-PRAM KOET;2TUTEYASAT;2MUOY ROC;2PII ROC;2BEI ROC;
2BUON ROC;2PRAM ROC;2PRAM-MUOY ROC;2PRAM-PII ROC;2PRAM-BEI ROC;2PRAM-BUON ROC;2DAP ROC;
2DAP-MUOY ROC;2DAP-PII ROC;2DAP-BEI ROC;2DAP-BUON ROC;2DAP-PRAM ROC;0BUGINESE LETTER KA;2GA;2NGA;
2NGKA;2PA;2BA;2MA;2MPA;2TA;2DA;2NA;2NRA;2CA;2JA;2NYA;2NYCA;2YA;2RA;2LA;2VA;2SA;2A;2HA;1VOWEL SIGN I;
3U;3E;3O;3AE;=1A1E;1PALLAWA;1END OF SECTION;0TAI THAM LETTER HIGH KA;4KHA;4KXA;3LOW KA;4KXA;4KHA;
3NGA;3HIGH CA;4CHA;3LOW CA;4SA;4CHA;3NYA;3RATA;3HIGH RATHA;3DA;3LOW RATHA;3RANA;3HIGH TA;4THA;
3LOW TA;4THA;3NA;3BA;3HIGH PA;4PHA;4FA;3LOW PA;4FA;4PHA;3MA;3LOW YA;3HIGH YA;3RA;3RUE;3LA;3LUE;3WA;
3HIGH SHA;4SSA;4SA;4HA;3LLA;3A;3LOW HA;3I;3II;3U;3UU;3EE;3OO;3LAE;3GREAT SA;
2CONSONANT SIGN MEDIAL RA;5LA;4LA TANG LAI;2SIGN MAI KANG LAI;2CONSONANT SIGN FINAL NGA;4LOW PA;
4HIGH RATHA OR LOW PA;4MA;4BA;4SA;=1A60;2SIGN SAKOT;2VOWEL SIGN A;4MAI SAT;4AA;4TALL AA;4I;4II;4UE;
4UUE;4U;4UU;4O;4OA BELOW;4OY;4E;4AE;4OO;4AI;4THAM AI;4OA ABOVE;2SIGN MAI KANG;3TONE-1;3TONE-2;
3KHUEN TONE-3;4TONE-4;4TONE-5;3RA HAAM;3MAI SAM;3KHUEN-LUE KARAN;=1A7F;2COMBINING CRYPTOGRAMMIC DOT;
2HORA DIGIT ZERO;4ONE;4TWO;4THREE;4FOUR;4FIVE;4SIX;4SEVEN;4EIGHT;4NINE;=1A90;2THAM DIGIT ZERO;4ONE;
4TWO;4THREE;4FOUR;4FIVE;4SIX;4SEVEN;4EIGHT;4NINE;=1AA0;2SIGN WIANG;3WIANGWAAK;3SAWAN;3KEOW;3HOY;
3DOKMAI;3REVERSED ROTATED RANA;3MAI YAMOK;3KAAN;3KAANKUU;3SATKAAN;3SATKAANKUU;3HANG;3CAANG;=1B00;
0BALINESE SIGN ULU RICEM;3CANDRA;2CECEK;2SURANG;2BISAH;1LETTER AKARA;3TEDUNG;2IKARA;3TEDUNG;2UKARA;
3TEDUNG;2RA REPA;4TEDUNG;2LA LENGA;4TEDUNG;2EKARA;2AIKARA;2OKARA;3TEDUNG;2KA;3MAHAPRANA;2GA;3GORA;
2NGA;2CA;3LACA;2JA;3JERA;2NYA;2TA LATIK;3MURDA MAHAPRANA;2DA MURDA ALPAPRANA;4MAHAPRANA;2NA RAMBAT;
2TA;3TAWA;2DA;3MADU;2NA;2PA;3KAPAL;2BA;3KEMBANG;2MA;2YA;2RA;2LA;2WA;2SA SAGA;3SAPA;2SA;2HA;
1SIGN REREKAN;1VOWEL SIGN TEDUNG;3ULU;4SARI;3SUKU;4ILUT;3RA REPA;5TEDUNG;3LA LENGA;5TEDUNG;3TALING;
4REPA;4TEDUNG;4REPA TEDUNG;3PEPET;4TEDUNG;1ADEG ADEG;1LETTER KAF SASAK;2KHOT SASAK;2TZIR SASAK;
2EF SASAK;2VE SASAK;2ZAL SASAK;2ASYURA SASAK;2ARCHAIC JNYA;=1B50;1DIGIT ZERO;2ONE;2TWO;2THREE;2FOUR;
2FIVE;2SIX;2SEVEN;2EIGHT;2NINE;1PANTI;1PAMADA;1WINDU;1CARIK PAMUNGKAH;2SIKI;2PAREREN;1PAMENENG;
1MUSICAL SYMBOL DONG;3DENG;3DUNG;3DANG;4SURANG;3DING;3DAENG;3DEUNG;3DAING;3DANG GEDE;
3COMBINING TEGEH;4ENDEP;4KEMPUL;4KEMPLI;4JEGOGAN;4KEMPUL WITH JEGOGAN;4KEMPLI WITH JEGOGAN;4BENDE;
4GONG;3RIGHT-HAND OPEN DUG;5DAG;4CLOSED TUK;5TAK;3LEFT-HAND OPEN PANG;5PUNG;4CLOSED PLAK;5PLUK;
4OPEN PING;1PANTI LANTANG;1PAMADA LANTANG;=1B80;0SUNDANESE SIGN PANYECEK;2PANGLAYAR;2PANGWISAD;
1LETTER A;2I;2U;2AE;2O;2E;2EU;2KA;2QA;2GA;2NGA;2CA;2JA;2ZA;2NYA;2TA;2DA;2NA;2PA;2FA;2VA;2BA;2MA;2YA;
2RA;2LA;2WA;2SA;2XA;2HA;1CONSONANT SIGN PAMINGKAL;3PANYAKRA;3PANYIKU;1VOWEL SIGN PANGHULU;3PANYUKU;
3PANAELAENG;3PANOLONG;3PAMEPET;3PANEULEUNG;1SIGN PAMAAEH;2VIRAMA;1CONSONANT SIGN PASANGAN MA;4WA;
1LETTER KHA;2SYA;1DIGIT ZERO;2ONE;2TWO;2THREE;2FOUR;2FIVE;2SIX;2SEVEN;2EIGHT;2NINE;1AVAGRAHA;
1LETTER REU;2LEU;2BHA;2FINAL K;3M;0BATAK LETTER A;2SIMALUNGUN A;2HA;2SIMALUNGUN HA;2MANDAILING HA;
2BA;2KARO BA;2PA;2SIMALUNGUN PA;2NA;2MANDAILING NA;2WA;2SIMALUNGUN WA;2PAKPAK WA;2GA;2SIMALUNGUN GA;
2JA;2DA;2RA;2SIMALUNGUN RA;2MA;2SIMALUNGUN MA;2SOUTHERN TA;2NORTHERN TA;2SA;2SIMALUNGUN SA;
2MANDAILING SA;2YA;2SIMALUNGUN YA;2NGA;2LA;2SIMALUNGUN LA;2NYA;2CA;2NDA;2MBA;2I;2U;1SIGN TOMPI;
1VOWEL SIGN E;3PAKPAK E;3EE;3I;3KARO I;3O;3KARO O;3U;4FOR SIMALUNGUN SA;1CONSONANT SIGN NG;3H;
1PANGOLAT;1PANONGONAN;=1BFC;1SYMBOL BINDU NA METEK;3PINARBORAS;3JUDUL;3PANGOLAT;=A4D0;
0LISU LETTER BA;2PA;2PHA;2DA;2TA;2THA;2GA;2KA;2KHA;2JA;2CA;2CHA;2DZA;2TSA;2TSHA;2MA;2NA;2LA;2SA;
2ZHA;2ZA;2NGA;2HA;2XA;2HHA;2FA;2WA;2SHA;2YA;2GHA;2A;2AE;2E;2EU;2I;2O;2U;2UE;2UH;2OE;2TONE MYA TI;
3NA PO;3MYA CYA;4BO;4NA;4JEU;1PUNCTUATION COMMA;2FULL STOP;=A900;0KAYAH LI DIGIT ZERO;3ONE;3TWO;
3THREE;3FOUR;3FIVE;3SIX;3SEVEN;3EIGHT;3NINE;2LETTER KA;3KHA;3GA;3NGA;3SA;3SHA;3ZA;3NYA;3TA;3HTA;3NA;
3PA;3PHA;3MA;3DA;3BA;3RA;3YA;3LA;3WA;3THA;3HA;3VA;3CA;3A;3OE;3I;3OO;2VOWEL UE;3E;3U;3EE;3O;
2TONE PLOPHU;3CALYA;4PLOPHU;2SIGN CWI;3SHYA;0REJANG LETTER KA;2GA;2NGA;2TA;2DA;2NA;2PA;2BA;2MA;2CA;
2JA;2NYA;2SA;2RA;2LA;2YA;2WA;2HA;2MBA;2NGGA;2NDA;2NYJA;2A;1VOWEL SIGN I;3U;3E;3AI;3O;3AU;3EU;3EA;
1CONSONANT SIGN NG;3N;3R;3H;1VIRAMA;=A95F;1SECTION MARK;0HANGUL CHOSEONG TIKEUT-MIEUM;2TIKEUT-PIEUP;
2TIKEUT-SIOS;2TIKEUT-CIEUC;2RIEUL-KIYEOK;2RIEUL-SSANGKIYEOK;2RIEUL-TIKEUT;2RIEUL-SSANGTIKEUT;
2RIEUL-MIEUM;2RIEUL-PIEUP;2RIEUL-SSANGPIEUP;2RIEUL-KAPYEOUNPIEUP;2RIEUL-SIOS;2RIEUL-CIEUC;
2RIEUL-KHIEUKH;2MIEUM-KIYEOK;2MIEUM-TIKEUT;2MIEUM-SIOS;2PIEUP-SIOS-THIEUTH;2PIEUP-KHIEUKH;
2PIEUP-HIEUH;2SSANGSIOS-PIEUP;2IEUNG-RIEUL;2IEUNG-HIEUH;2SSANGCIEUC-HIEUH;2SSANGTHIEUTH;
2PHIEUPH-HIEUH;2HIEUH-SIOS;2SSANGYEORINHIEUH;=A980;0JAVANESE SIGN PANYANGGA;2CECAK;2LAYAR;2WIGNYAN;
1LETTER A;2I KAWI;2I;2II;2U;2PA CEREK;2NGA LELET;4RASWADI;2E;2AI;2O;2KA;3SASAK;3MURDA;2GA;3MURDA;
2NGA;2CA;3MURDA;2JA;2NYA MURDA;2JA MAHAPRANA;2NYA;2TTA;3MAHAPRANA;2DDA;3MAHAPRANA;2NA MURDA;2TA;
3MURDA;2DA;3MAHAPRANA;2NA;2PA;3MURDA;2BA;3MURDA;2MA;2YA;2RA;3AGUNG;2LA;2WA;2SA MURDA;3MAHAPRANA;2SA;
2HA;1SIGN CECAK TELU;1VOWEL SIGN TARUNG;3TOLONG;3WULU;4MELIK;3SUKU;4MENDUT;3TALING;3DIRGA MURE;
3PEPET;1CONSONANT SIGN KERET;3PENGKAL;3CAKRA;1PANGKON;1LEFT RERENGGAN;1RIGHT RERENGGAN;1PADA ANDAP;
2MADYA;2LUHUR;2WINDU;2PANGKAT;2LINGSA;2LUNGSI;2ADEG;3ADEG;2PISELEH;1TURNED PADA PISELEH;=A9CF;
1PANGRANGKEP;1DIGIT ZERO;2ONE;2TWO;2THREE;2FOUR;2FIVE;2SIX;2SEVEN;2EIGHT;2NINE;=A9DE;
1PADA TIRTA TUMETES;2ISEN-ISEN;0MYANMAR LETTER SHAN GHA;3CHA;3JHA;3NNA;3BHA;1SIGN SHAN SAW;
1MODIFIER LETTER SHAN REDUPLICATION;1LETTER TAI LAING NYA;4FA;4GA;4GHA;4JA;4JHA;4DDA;4DDHA;4NNA;
1TAI LAING DIGIT ZERO;4ONE;4TWO;4THREE;4FOUR;4FIVE;4SIX;4SEVEN;4EIGHT;4NINE;1LETTER TAI LAING LLA;
4DA;4DHA;4BA;4BHA;=AA00;0CHAM LETTER A;2I;2U;2E;2AI;2O;2KA;2KHA;2GA;2GHA;2NGUE;2NGA;2CHA;2CHHA;2JA;
2JHA;2NHUE;2NHA;2NHJA;2TA;2THA;2DA;2DHA;2NUE;2NA;2DDA;2PA;2PPA;2PHA;2BA;2BHA;2MUE;2MA;2BBA;2YA;2RA;
2LA;2VA;2SSA;2SA;2HA;1VOWEL SIGN AA;3I;3II;3EI;3U;3OE;3O;3AI;3AU;3UE;1CONSONANT SIGN YA;3RA;3LA;3WA;
=AA40;1LETTER FINAL K;3G;3NG;1CONSONANT SIGN FINAL NG;1LETTER FINAL CH;3T;3N;3P;3Y;3R;3L;3SS;
1CONSONANT SIGN FINAL M;4H;=AA50;1DIGIT ZERO;2ONE;2TWO;2THREE;2FOUR;2FIVE;2SIX;2SEVEN;2EIGHT;2NINE;
=AA5C;1PUNCTUATION SPIRAL;2DANDA;2DOUBLE DANDA;2TRIPLE DANDA;0MYANMAR LETTER KHAMTI GA;3CA;3CHA;3JA;
3JHA;3NYA;3TTA;3TTHA;3DDA;3DDHA;3DHA;3NA;3SA;3HA;3HHA;3FA;1MODIFIER LETTER KHAMTI REDUPLICATION;
1LETTER KHAMTI XA;3ZA;3RA;1LOGOGRAM KHAMTI OAY;3QN;3HM;1SYMBOL AITON EXCLAMATION;3ONE;3TWO;
1LETTER AITON RA;1SIGN PAO KAREN TONE;2TAI LAING TONE-2;4TONE-5;1LETTER SHWE PALAUNG CHA;4SHA;
0TAI VIET LETTER LOW KO;3HIGH KO;3LOW KHO;3HIGH KHO;3LOW KHHO;3HIGH KHHO;3LOW GO;3HIGH GO;3LOW NGO;
3HIGH NGO;3LOW CO;3HIGH CO;3LOW CHO;3HIGH CHO;3LOW SO;3HIGH SO;3LOW NYO;3HIGH NYO;3LOW DO;3HIGH DO;
3LOW TO;3HIGH TO;3LOW THO;3HIGH THO;3LOW NO;3HIGH NO;3LOW BO;3HIGH BO;3LOW PO;3HIGH PO;3LOW PHO;
3HIGH PHO;3LOW FO;3HIGH FO;3LOW MO;3HIGH MO;3LOW YO;3HIGH YO;3LOW RO;3HIGH RO;3LOW LO;3HIGH LO;
3LOW VO;3HIGH VO;3LOW HO;3HIGH HO;3LOW O;3HIGH O;2MAI KANG;2VOWEL AA;3I;3UE;3U;3E;3O;2MAI KHIT;
2VOWEL IA;3UEA;3UA;3AUE;3AY;3AN;3AM;2TONE MAI EK;4NUENG;4THO;4SONG;=AADB;2SYMBOL KON;3NUENG;3SAM;
3HO HOI;3KOI KOI;=16B00;0PAHAWH HMONG VOWEL KEEB;3KEEV;3KIB;3KIV;3KAUB;3KAUV;3KUB;3KUV;3KEB;3KEV;
3KAIB;3KAIV;3KOOB;3KOOV;3KAWB;3KAWV;3KUAB;3KUAV;3KOB;3KOV;3KIAB;3KIAV;3KAB;3KAV;3KWB;3KWV;3KAAB;
3KAAV;2CONSONANT VAU;3NTSAU;3LAU;3HAU;3NLAU;3RAU;3NKAU;3QHAU;3YAU;3HLAU;3MAU;3CHAU;3NCHAU;3HNAU;
3PLHAU;3NTHAU;3NAU;3AU;3XAU;3CAU;2MARK CIM TUB;4SO;4KES;4KHAV;4SUAM;4HOM;4TAUM;2SIGN VOS THOM;
4TSHAB CEEB;3CIM CHEEM;3VOS THIAB;4FEEM;3XYEEM NTXIV;4RHO;4TOV;4FAIB;3VOS SEEV;3MEEJ SUAB;3VOS NRUA;
3IB YAM;3XAUS;3CIM TSOV ROG;=16B50;2DIGIT ZERO;3ONE;3TWO;3THREE;3FOUR;3FIVE;3SIX;3SEVEN;3EIGHT;
3NINE;=16B5B;2NUMBER TENS;3HUNDREDS;3TEN THOUSANDS;3MILLIONS;3HUNDRED MILLIONS;3TEN BILLIONS;
3TRILLIONS;=16B63;2SIGN VOS LUB;3XYOO;3HLI;3THIRD-STAGE HLI;3ZWJ THAJ;3HNUB;3NQIG;3XIAB;3NTUJ;3AV;
3TXHEEJ CEEV;3MEEJ TSEEB;3TAU;3LOS;3MUS;3CIM HAIS LUS NTOG NTOG;4CUAM TSHOOJ;4TXWV;5CHWV;4PUB DAWB;
4NRES TOS;=16B7D;2CLAN SIGN TSHEEJ;4YEEG;4LIS;4LAUJ;4XYOOJ;4KOO;4HAWJ;4MUAS;4THOJ;4TSAB;4PHAB;4KHAB;
4HAM;4VAJ;4FAJ;4YAJ;4TSWB;4KWM;4VWJ;=16F00;0MIAO LETTER PA;2BA;2YI PA;2PLA;2MA;2MHA;2ARCHAIC MA;2FA;
2VA;2VFA;2TA;2DA;2YI TTA;3TA;2TTA;2DDA;2NA;2NHA;2YI NNA;2ARCHAIC NA;2NNA;2NNHA;2LA;2LYA;2LHA;2LHYA;
2TLHA;2DLHA;2TLHYA;2DLHYA;2KA;2GA;2YI KA;2QA;2QGA;2NGA;2NGHA;2ARCHAIC NGA;2HA;2XA;2GHA;2GHHA;2TSSA;
2DZZA;2NYA;2NYHA;2TSHA;2DZHA;2YI TSHA;3DZHA;2REFORMED TSHA;2SHA;2SSA;2ZHA;2ZSHA;2TSA;2DZA;2YI TSA;
2SA;2ZA;2ZSA;2ZZA;2ZZSA;2ARCHAIC ZZA;2ZZYA;2ZZSYA;2WA;2AH;2HHA;2BRI;2SYI;2DZYI;2TE;2TSE;2RTE;=16F4F;
1SIGN CONSONANT MODIFIER BAR;1LETTER NASALIZATION;1SIGN ASPIRATION;2REFORMED VOICING;3ASPIRATION;
1VOWEL SIGN A;3AA;3AHH;3AN;3ANG;3O;3OO;3WO;3W;3E;3EN;3ENG;3OEY;3I;3IA;3IAN;3IANG;3IO;3IE;3II;3IU;
3ING;3U;3UA;3UAN;3UANG;3UU;3UEI;3UNG;3Y;3YI;3AE;3AEE;3ERR;3ROUNDED ERR;3ER;3ROUNDED ER;3AI;3EI;3AU;
3OU;3N;3NG;3UOG;3YUI;3OG;3OER;3VW;3IG;3EA;3IONG;3UI;=16F8F;1TONE RIGHT;2TOP RIGHT;2ABOVE;2BELOW;
1LETTER TONE-2;2TONE-3;2TONE-4;2TONE-5;2TONE-6;2TONE-7;2TONE-8;2REFORMED TONE-1;3TONE-2;3TONE-4;
3TONE-5;3TONE-6;3TONE-8;=1E100;0NYIAKENG PUACHUE HMONG LETTER MA;4TSA;4NTA;4TA;4HA;4NA;4XA;4NKA;4CA;
4LA;4SA;4ZA;4NCA;4NTSA;4KA;4DA;4NYA;4NRA;4VA;4NTXA;4TXA;4FA;4RA;4QA;4YA;4NQA;4PA;4XYA;4NPA;4DLA;
4NPLA;4HAH;4MLA;4PLA;4GA;4RRA;4A;4AA;4I;4U;4O;4OO;4E;4EE;4W;=1E130;3TONE-B;3TONE-M;3TONE-J;3TONE-V;
3TONE-S;3TONE-G;3TONE-D;3SIGN FOR PERSON;5THING;5LOCATION;5ANIMAL;5INVERTEBRATE;4XW XW;
3SYLLABLE LENGTHENER;=1E140;3DIGIT ZERO;4ONE;4TWO;4THREE;4FOUR;4FIVE;4SIX;4SEVEN;4EIGHT;4NINE;
=1E14E;3LOGOGRAM NYAJ;3CIRCLED CA;=1E290;0TOTO LETTER PA;2BA;2TA;2DA;2KA;2GA;2MA;2NA;2NGA;2SA;2CHA;
2YA;2WA;2JA;2HA;2RA;2LA;2I;2BREATHY I;2IU;2BREATHY IU;2U;2E;2BREATHY E;2EO;2BREATHY EO;2O;2AE;
2BREATHY AE;2A;1SIGN RISING TONE;=1E2C0;0WANCHO LETTER AA;2A;2BA;2CA;2DA;2GA;2YA;2PHA;2LA;2NA;2PA;
2TA;2THA;2FA;2SA;2SHA;2JA;2ZA;2WA;2VA;2KA;2O;2AU;2RA;2MA;2KHA;2HA;2E;2I;2NGA;2U;2LLHA;2TSA;2TRA;
2ONG;2AANG;2ANG;2ING;2ON;2EN;2AAN;2NYA;2UEN;2YIH;1TONE TUP;2TUPNI;2KOI;2KOINI;1DIGIT ZERO;2ONE;2TWO;
2THREE;2FOUR;2FIVE;2SIX;2SEVEN;2EIGHT;2NINE;=1E2FF;1NGUN SIGN;"

/-- Names of Chinese, Japanese, Korean and neighbouring scripts. -/
def siniticNames : String := "
=1100;0HANGUL CHOSEONG KIYEOK;2SSANGKIYEOK;2NIEUN;2TIKEUT;2SSANGTIKEUT;2RIEUL;2MIEUM;2PIEUP;
2SSANGPIEUP;2SIOS;2SSANGSIOS;2IEUNG;2CIEUC;2SSANGCIEUC;2CHIEUCH;2KHIEUKH;2THIEUTH;2PHIEUPH;2HIEUH;
2NIEUN-KIYEOK;2SSANGNIEUN;2NIEUN-TIKEUT;2NIEUN-PIEUP;2TIKEUT-KIYEOK;2RIEUL-NIEUN;2SSANGRIEUL;
2RIEUL-HIEUH;2KAPYEOUNRIEUL;2MIEUM-PIEUP;2KAPYEOUNMIEUM;2PIEUP-KIYEOK;2PIEUP-NIEUN;2PIEUP-TIKEUT;
2PIEUP-SIOS;2PIEUP-SIOS-KIYEOK;2PIEUP-SIOS-TIKEUT;2PIEUP-SIOS-PIEUP;2PIEUP-SSANGSIOS;
2PIEUP-SIOS-CIEUC;2PIEUP-CIEUC;2PIEUP-CHIEUCH;2PIEUP-THIEUTH;2PIEUP-PHIEUPH;2KAPYEOUNPIEUP;
2KAPYEOUNSSANGPIEUP;2SIOS-KIYEOK;2SIOS-NIEUN;2SIOS-TIKEUT;2SIOS-RIEUL;2SIOS-MIEUM;2SIOS-PIEUP;
2SIOS-PIEUP-KIYEOK;2SIOS-SSANGSIOS;2SIOS-IEUNG;2SIOS-CIEUC;2SIOS-CHIEUCH;2SIOS-KHIEUKH;
2SIOS-THIEUTH;2SIOS-PHIEUPH;2SIOS-HIEUH;2CHITUEUMSIOS;2CHITUEUMSSANGSIOS;2CEONGCHIEUMSIOS;
2CEONGCHIEUMSSANGSIOS;2PANSIOS;2IEUNG-KIYEOK;2IEUNG-TIKEUT;2IEUNG-MIEUM;2IEUNG-PIEUP;2IEUNG-SIOS;
2IEUNG-PANSIOS;2SSANGIEUNG;2IEUNG-CIEUC;2IEUNG-CHIEUCH;2IEUNG-THIEUTH;2IEUNG-PHIEUPH;2YESIEUNG;
2CIEUC-IEUNG;2CHITUEUMCIEUC;2CHITUEUMSSANGCIEUC;2CEONGCHIEUMCIEUC;2CEONGCHIEUMSSANGCIEUC;
2CHIEUCH-KHIEUKH;2CHIEUCH-HIEUH;2CHITUEUMCHIEUCH;2CEONGCHIEUMCHIEUCH;2PHIEUPH-PIEUP;
2KAPYEOUNPHIEUPH;2SSANGHIEUH;2YEORINHIEUH;2KIYEOK-TIKEUT;2NIEUN-SIOS;2NIEUN-CIEUC;2NIEUN-HIEUH;
2TIKEUT-RIEUL;2FILLER;1JUNGSEONG FILLER;2A;2AE;2YA;2YAE;2EO;2E;2YEO;2YE;2O;2WA;2WAE;2OE;2YO;2U;2WEO;
2WE;2WI;2YU;2EU;2YI;2I;2A-O;2A-U;2YA-O;2YA-YO;2EO-O;2EO-U;2EO-EU;2YEO-O;2YEO-U;2O-EO;2O-E;2O-YE;
2O-O;2O-U;2YO-YA;2YO-YAE;2YO-YEO;2YO-O;2YO-I;2U-A;2U-AE;2U-EO-EU;2U-YE;2U-U;2YU-A;2YU-EO;2YU-E;
2YU-YEO;2YU-YE;2YU-U;2YU-I;2EU-U;2EU-EU;2YI-U;2I-A;2I-YA;2I-O;2I-U;2I-EU;2I-ARAEA;2ARAEA;2ARAEA-EO;
2ARAEA-U;2ARAEA-I;2SSANGARAEA;2A-EU;2YA-U;2YEO-YA;2O-YA;2O-YAE;1JONGSEONG KIYEOK;2SSANGKIYEOK;
2KIYEOK-SIOS;2NIEUN;2NIEUN-CIEUC;2NIEUN-HIEUH;2TIKEUT;2RIEUL;2RIEUL-KIYEOK;2RIEUL-MIEUM;
2RIEUL-PIEUP;2RIEUL-SIOS;2RIEUL-THIEUTH;2RIEUL-PHIEUPH;2RIEUL-HIEUH;2MIEUM;2PIEUP;2PIEUP-SIOS;2SIOS;
2SSANGSIOS;2IEUNG;2CIEUC;2CHIEUCH;2KHIEUKH;2THIEUTH;2PHIEUPH;2HIEUH;2KIYEOK-RIEUL;
2KIYEOK-SIOS-KIYEOK;2NIEUN-KIYEOK;2NIEUN-TIKEUT;2NIEUN-SIOS;2NIEUN-PANSIOS;2NIEUN-THIEUTH;
2TIKEUT-KIYEOK;2TIKEUT-RIEUL;2RIEUL-KIYEOK-SIOS;2RIEUL-NIEUN;2RIEUL-TIKEUT;2RIEUL-TIKEUT-HIEUH;
2SSANGRIEUL;2RIEUL-MIEUM-KIYEOK;2RIEUL-MIEUM-SIOS;2RIEUL-PIEUP-SIOS;2RIEUL-PIEUP-HIEUH;
2RIEUL-KAPYEOUNPIEUP;2RIEUL-SSANGSIOS;2RIEUL-PANSIOS;2RIEUL-KHIEUKH;2RIEUL-YEORINHIEUH;
2MIEUM-KIYEOK;2MIEUM-RIEUL;2MIEUM-PIEUP;2MIEUM-SIOS;2MIEUM-SSANGSIOS;2MIEUM-PANSIOS;2MIEUM-CHIEUCH;
2MIEUM-HIEUH;2KAPYEOUNMIEUM;2PIEUP-RIEUL;2PIEUP-PHIEUPH;2PIEUP-HIEUH;2KAPYEOUNPIEUP;2SIOS-KIYEOK;
2SIOS-TIKEUT;2SIOS-RIEUL;2SIOS-PIEUP;2PANSIOS;2IEUNG-KIYEOK;2IEUNG-SSANGKIYEOK;2SSANGIEUNG;
2IEUNG-KHIEUKH;2YESIEUNG;2YESIEUNG-SIOS;2YESIEUNG-PANSIOS;2PHIEUPH-PIEUP;2KAPYEOUNPHIEUPH;
2HIEUH-NIEUN;2HIEUH-RIEUL;2HIEUH-MIEUM;2HIEUH-PIEUP;2YEORINHIEUH;2KIYEOK-NIEUN;2KIYEOK-PIEUP;
2KIYEOK-CHIEUCH;2KIYEOK-KHIEUKH;2KIYEOK-HIEUH;2SSANGNIEUN;=2E80;0CJK RADICAL REPEAT;2CLIFF;
2SECOND ONE;3TWO;3THREE;2PERSON;2BOX;2TABLE;2KNIFE ONE;3TWO;2DIVINATION;2SEAL;2SMALL ONE;3TWO;
2LAME ONE;3TWO;3THREE;3FOUR;2SNAKE;2THREAD;2SNOUT ONE;3TWO;2HEART ONE;3TWO;2HAND;2RAP;=2E9B;2CHOKE;
2SUN;2MOON;2DEATH;2MOTHER;2CIVILIAN;2WATER ONE;3TWO;2FIRE;2PAW ONE;3TWO;2SIMPLIFIED HALF TREE TRUNK;
2COW;2DOG;2JADE;2BOLT OF CLOTH;2EYE;2SPIRIT ONE;3TWO;2BAMBOO;2SILK;2C-SIMPLIFIED SILK;2NET ONE;3TWO;
3THREE;3FOUR;2MESH;2SHEEP;2RAM;2EWE;2OLD;2BRUSH ONE;3TWO;2MEAT;2MORTAR;2GRASS ONE;3TWO;3THREE;
2TIGER;2CLOTHES;2WEST ONE;3TWO;2C-SIMPLIFIED SEE;2SIMPLIFIED HORN;2HORN;2C-SIMPLIFIED SPEECH;3SHELL;
2FOOT;2C-SIMPLIFIED CART;2SIMPLIFIED WALK;2WALK ONE;3TWO;2CITY;2C-SIMPLIFIED GOLD;2LONG ONE;3TWO;
2C-SIMPLIFIED LONG;3GATE;2MOUND ONE;3TWO;2RAIN;2BLUE;2C-SIMPLIFIED TANNED LEATHER;3LEAF;3WIND;3FLY;
2EAT ONE;3TWO;3THREE;2C-SIMPLIFIED EAT;2HEAD;2C-SIMPLIFIED HORSE;2BONE;2GHOST;2C-SIMPLIFIED FISH;
3BIRD;3SALT;2SIMPLIFIED WHEAT;3YELLOW;2C-SIMPLIFIED FROG;2J-SIMPLIFIED EVEN;2C-SIMPLIFIED EVEN;
2J-SIMPLIFIED TOOTH;2C-SIMPLIFIED TOOTH;2J-SIMPLIFIED DRAGON;2C-SIMPLIFIED DRAGON;2TURTLE;
2J-SIMPLIFIED TURTLE;2C-SIMPLIFIED TURTLE;=2F00;0KANGXI RADICAL ONE;2LINE;2DOT;2SLASH;2SECOND;2HOOK;
2TWO;2LID;2MAN;2LEGS;2ENTER;2EIGHT;2DOWN BOX;2COVER;2ICE;2TABLE;2OPEN BOX;2KNIFE;2POWER;2WRAP;
2SPOON;2RIGHT OPEN BOX;2HIDING ENCLOSURE;2TEN;2DIVINATION;2SEAL;2CLIFF;2PRIVATE;2AGAIN;2MOUTH;
2ENCLOSURE;2EARTH;2SCHOLAR;2GO;3SLOWLY;2EVENING;2BIG;2WOMAN;2CHILD;2ROOF;2INCH;2SMALL;2LAME;2CORPSE;
2SPROUT;2MOUNTAIN;2RIVER;2WORK;2ONESELF;2TURBAN;2DRY;2SHORT THREAD;2DOTTED CLIFF;2LONG STRIDE;
2TWO HANDS;2SHOOT;2BOW;2SNOUT;2BRISTLE;2STEP;2HEART;2HALBERD;2DOOR;2HAND;2BRANCH;2RAP;2SCRIPT;
2DIPPER;2AXE;2SQUARE;2NOT;2SUN;2SAY;2MOON;2TREE;2LACK;2STOP;2DEATH;2WEAPON;2DO NOT;2COMPARE;2FUR;
2CLAN;2STEAM;2WATER;2FIRE;2CLAW;2FATHER;2DOUBLE X;2HALF TREE TRUNK;2SLICE;2FANG;2COW;2DOG;2PROFOUND;
2JADE;2MELON;2TILE;2SWEET;2LIFE;2USE;2FIELD;2BOLT OF CLOTH;2SICKNESS;2DOTTED TENT;2WHITE;2SKIN;
2DISH;2EYE;2SPEAR;2ARROW;2STONE;2SPIRIT;2TRACK;2GRAIN;2CAVE;2STAND;2BAMBOO;2RICE;2SILK;2JAR;2NET;
2SHEEP;2FEATHER;2OLD;2AND;2PLOW;2EAR;2BRUSH;2MEAT;2MINISTER;2SELF;2ARRIVE;2MORTAR;2TONGUE;2OPPOSE;
2BOAT;2STOPPING;2COLOR;2GRASS;2TIGER;2INSECT;2BLOOD;2WALK ENCLOSURE;2CLOTHES;2WEST;2SEE;2HORN;
2SPEECH;2VALLEY;2BEAN;2PIG;2BADGER;2SHELL;2RED;2RUN;2FOOT;2BODY;2CART;2BITTER;2MORNING;2WALK;2CITY;
2WINE;2DISTINGUISH;2VILLAGE;2GOLD;2LONG;2GATE;2MOUND;2SLAVE;2SHORT TAILED BIRD;2RAIN;2BLUE;2WRONG;
2FACE;2LEATHER;2TANNED LEATHER;2LEEK;2SOUND;2LEAF;2WIND;2FLY;2EAT;2HEAD;2FRAGRANT;2HORSE;2BONE;
2TALL;2HAIR;2FIGHT;2SACRIFICIAL WINE;2CAULDRON;2GHOST;2FISH;2BIRD;2SALT;2DEER;2WHEAT;2HEMP;2YELLOW;
2MILLET;2BLACK;2EMBROIDERY;2FROG;2TRIPOD;2DRUM;2RAT;2NOSE;2EVEN;2TOOTH;2DRAGON;2TURTLE;2FLUTE;=2FF0;
0IDEOGRAPHIC DESCRIPTION CHARACTER LEFT TO RIGHT;3ABOVE TO BELOW;3LEFT TO MIDDLE AND RIGHT;
3ABOVE TO MIDDLE AND BELOW;3FULL SURROUND;3SURROUND FROM ABOVE;5BELOW;5LEFT;5UPPER LEFT;6RIGHT;
5LOWER LEFT;3OVERLAID;=3000;1SPACE;1COMMA;1FULL STOP;0DITTO MARK;
0JAPANESE INDUSTRIAL STANDARD SYMBOL;0IDEOGRAPHIC ITERATION MARK;1CLOSING MARK;1NUMBER ZERO;
0LEFT ANGLE BRACKET;0RIGHT ANGLE BRACKET;0LEFT DOUBLE ANGLE BRACKET;0RIGHT DOUBLE ANGLE BRACKET;
0LEFT CORNER BRACKET;0RIGHT CORNER BRACKET;0LEFT WHITE CORNER BRACKET;0RIGHT WHITE CORNER BRACKET;
0LEFT BLACK LENTICULAR BRACKET;0RIGHT BLACK LENTICULAR BRACKET;0POSTAL MARK;0GETA MARK;
0LEFT TORTOISE SHELL BRACKET;0RIGHT TORTOISE SHELL BRACKET;0LEFT WHITE LENTICULAR BRACKET;
0RIGHT WHITE LENTICULAR BRACKET;0LEFT WHITE TORTOISE SHELL BRACKET;
0RIGHT WHITE TORTOISE SHELL BRACKET;0LEFT WHITE SQUARE BRACKET;0RIGHT WHITE SQUARE BRACKET;
0WAVE DASH;0REVERSED DOUBLE PRIME QUOTATION MARK;0DOUBLE PRIME QUOTATION MARK;
0LOW DOUBLE PRIME QUOTATION MARK;0POSTAL MARK FACE;0HANGZHOU NUMERAL ONE;2TWO;2THREE;2FOUR;2FIVE;
2SIX;2SEVEN;2EIGHT;2NINE;0IDEOGRAPHIC LEVEL TONE MARK;1RISING TONE MARK;1DEPARTING TONE MARK;
1ENTERING TONE MARK;0HANGUL SINGLE DOT TONE MARK;1DOUBLE DOT TONE MARK;0WAVY DASH;
0VERTICAL KANA REPEAT MARK;3WITH VOICED SOUND MARK;3MARK UPPER HALF;
3WITH VOICED SOUND MARK UPPER HALF;3MARK LOWER HALF;0CIRCLED POSTAL MARK;
0IDEOGRAPHIC TELEGRAPH LINE FEED SEPARATOR SYMBOL;0HANGZHOU NUMERAL TEN;2TWENTY;2THIRTY;
0VERTICAL IDEOGRAPHIC ITERATION MARK;0MASU MARK;0PART ALTERNATION MARK;
0IDEOGRAPHIC VARIATION INDICATOR;1HALF FILL SPACE;=3041;0HIRAGANA LETTER SMALL A;2A;2SMALL I;2I;
2SMALL U;2U;2SMALL E;2E;2SMALL O;2O;2KA;2GA;2KI;2GI;2KU;2GU;2KE;2GE;2KO;2GO;2SA;2ZA;2SI;2ZI;2SU;2ZU;
2SE;2ZE;2SO;2ZO;2TA;2DA;2TI;2DI;2SMALL TU;2TU;2DU;2TE;2DE;2TO;2DO;2NA;2NI;2NU;2NE;2NO;2HA;2BA;2PA;
2HI;2BI;2PI;2HU;2BU;2PU;2HE;2BE;2PE;2HO;2BO;2PO;2MA;2MI;2MU;2ME;2MO;2SMALL YA;2YA;2SMALL YU;2YU;
2SMALL YO;2YO;2RA;2RI;2RU;2RE;2RO;2SMALL WA;2WA;2WI;2WE;2WO;2N;2VU;2SMALL KA;3KE;=3099;
0COMBINING KATAKANA-HIRAGANA VOICED SOUND MARK;2SEMI-VOICED SOUND MARK;
0KATAKANA-HIRAGANA VOICED SOUND MARK;1SEMI-VOICED SOUND MARK;0HIRAGANA ITERATION MARK;
1VOICED ITERATION MARK;1DIGRAPH YORI;0KATAKANA-HIRAGANA DOUBLE HYPHEN;0KATAKANA LETTER SMALL A;2A;
2SMALL I;2I;2SMALL U;2U;2SMALL E;2E;2SMALL O;2O;2KA;2GA;2KI;2GI;2KU;2GU;2KE;2GE;2KO;2GO;2SA;2ZA;2SI;
2ZI;2SU;2ZU;2SE;2ZE;2SO;2ZO;2TA;2DA;2TI;2DI;2SMALL TU;2TU;2DU;2TE;2DE;2TO;2DO;2NA;2NI;2NU;2NE;2NO;
2HA;2BA;2PA;2HI;2BI;2PI;2HU;2BU;2PU;2HE;2BE;2PE;2HO;2BO;2PO;2MA;2MI;2MU;2ME;2MO;2SMALL YA;2YA;
2SMALL YU;2YU;2SMALL YO;2YO;2RA;2RI;2RU;2RE;2RO;2SMALL WA;2WA;2WI;2WE;2WO;2N;2VU;2SMALL KA;3KE;2VA;
2VI;2VE;2VO;1MIDDLE DOT;0KATAKANA-HIRAGANA PROLONGED SOUND MARK;0KATAKANA ITERATION MARK;
1VOICED ITERATION MARK;1DIGRAPH KOTO;=3105;0BOPOMOFO LETTER B;2P;2M;2F;2D;2T;2N;2L;2G;2K;2H;2J;2Q;
2X;2ZH;2CH;2SH;2R;2Z;2C;2S;2A;2O;2E;2EH;2AI;2EI;2AU;2OU;2AN;2EN;2ANG;2ENG;2ER;2I;2U;2IU;2V;2NG;2GN;
2IH;2O WITH DOT ABOVE;2NN;=3131;0HANGUL LETTER KIYEOK;2SSANGKIYEOK;2KIYEOK-SIOS;2NIEUN;2NIEUN-CIEUC;
2NIEUN-HIEUH;2TIKEUT;2SSANGTIKEUT;2RIEUL;2RIEUL-KIYEOK;2RIEUL-MIEUM;2RIEUL-PIEUP;2RIEUL-SIOS;
2RIEUL-THIEUTH;2RIEUL-PHIEUPH;2RIEUL-HIEUH;2MIEUM;2PIEUP;2SSANGPIEUP;2PIEUP-SIOS;2SIOS;2SSANGSIOS;
2IEUNG;2CIEUC;2SSANGCIEUC;2CHIEUCH;2KHIEUKH;2THIEUTH;2PHIEUPH;2HIEUH;2A;2AE;2YA;2YAE;2EO;2E;2YEO;
2YE;2O;2WA;2WAE;2OE;2YO;2U;2WEO;2WE;2WI;2YU;2EU;2YI;2I;1FILLER;1LETTER SSANGNIEUN;2NIEUN-TIKEUT;
2NIEUN-SIOS;2NIEUN-PANSIOS;2RIEUL-KIYEOK-SIOS;2RIEUL-TIKEUT;2RIEUL-PIEUP-SIOS;2RIEUL-PANSIOS;
2RIEUL-YEORINHIEUH;2MIEUM-PIEUP;2MIEUM-SIOS;2MIEUM-PANSIOS;2KAPYEOUNMIEUM;2PIEUP-KIYEOK;
2PIEUP-TIKEUT;2PIEUP-SIOS-KIYEOK;2PIEUP-SIOS-TIKEUT;2PIEUP-CIEUC;2PIEUP-THIEUTH;2KAPYEOUNPIEUP;
2KAPYEOUNSSANGPIEUP;2SIOS-KIYEOK;2SIOS-NIEUN;2SIOS-TIKEUT;2SIOS-PIEUP;2SIOS-CIEUC;2PANSIOS;
2SSANGIEUNG;2YESIEUNG;2YESIEUNG-SIOS;2YESIEUNG-PANSIOS;2KAPYEOUNPHIEUPH;2SSANGHIEUH;2YEORINHIEUH;
2YO-YA;2YO-YAE;2YO-I;2YU-YEO;2YU-YE;2YU-I;2ARAEA;2ARAEAE;=3190;0IDEOGRAPHIC ANNOTATION LINKING MARK;
2REVERSE MARK;2ONE MARK;2TWO MARK;2THREE MARK;2FOUR MARK;2TOP MARK;2MIDDLE MARK;2BOTTOM MARK;
2FIRST MARK;2SECOND MARK;2THIRD MARK;2FOURTH MARK;2HEAVEN MARK;2EARTH MARK;2MAN MARK;
0BOPOMOFO LETTER BU;2ZI;2JI;2GU;2EE;2ENN;2OO;2ONN;2IR;2ANN;2INN;2UNN;2IM;2NGG;2AINN;2AUNN;2AM;2OM;
2ONG;2INNN;1FINAL LETTER P;3T;3K;3H;1LETTER GH;2LH;2ZY;1FINAL LETTER G;1LETTER GW;2KW;2OE;2AH;
0CJK STROKE T;2WG;2XG;2BXG;2SW;2HZZ;2HZG;2HP;2HZWG;2SZWG;2HZT;2HZZP;2HPWG;2HZW;2HZZZ;2N;2H;2S;2P;
2SP;2D;2HZ;2HG;2SZ;2SWZ;2ST;2SG;2PD;2PZ;2TN;2SZZ;2SWG;2HXWG;2HZZZG;2PG;2Q;=31F0;
0KATAKANA LETTER SMALL KU;3SI;3SU;3TO;3NU;3HA;3HI;3HU;3HE;3HO;3MU;3RA;3RI;3RU;3RE;3RO;
0PARENTHESIZED HANGUL KIYEOK;2NIEUN;2TIKEUT;2RIEUL;2MIEUM;2PIEUP;2SIOS;2IEUNG;2CIEUC;2CHIEUCH;
2KHIEUKH;2THIEUTH;2PHIEUPH;2HIEUH;2KIYEOK A;2NIEUN A;2TIKEUT A;2RIEUL A;2MIEUM A;2PIEUP A;2SIOS A;
2IEUNG A;2CIEUC A;2CHIEUCH A;2KHIEUKH A;2THIEUTH A;2PHIEUPH A;2HIEUH A;2CIEUC U;
1KOREAN CHARACTER OJEON;3O HU;=3220;1IDEOGRAPH ONE;2TWO;2THREE;2FOUR;2FIVE;2SIX;2SEVEN;2EIGHT;2NINE;
2TEN;2MOON;2FIRE;2WATER;2WOOD;2METAL;2EARTH;2SUN;2STOCK;2HAVE;2SOCIETY;2NAME;2SPECIAL;2FINANCIAL;
2CONGRATULATION;2LABOR;2REPRESENT;2CALL;2STUDY;2SUPERVISE;2ENTERPRISE;2RESOURCE;2ALLIANCE;2FESTIVAL;
2REST;2SELF;2REACH;0CIRCLED IDEOGRAPH QUESTION;2KINDERGARTEN;2SCHOOL;2KOTO;
1NUMBER TEN ON BLACK SQUARE;2TWENTY ON BLACK SQUARE;2THIRTY ON BLACK SQUARE;2FORTY ON BLACK SQUARE;
2FIFTY ON BLACK SQUARE;2SIXTY ON BLACK SQUARE;2SEVENTY ON BLACK SQUARE;2EIGHTY ON BLACK SQUARE;
0PARTNERSHIP SIGN;0CIRCLED NUMBER TWENTY ONE;3TWO;3THREE;3FOUR;3FIVE;3SIX;3SEVEN;3EIGHT;3NINE;
2THIRTY;3ONE;3TWO;3THREE;3FOUR;3FIVE;1HANGUL KIYEOK;2NIEUN;2TIKEUT;2RIEUL;2MIEUM;2PIEUP;2SIOS;
2IEUNG;2CIEUC;2CHIEUCH;2KHIEUKH;2THIEUTH;2PHIEUPH;2HIEUH;2KIYEOK A;2NIEUN A;2TIKEUT A;2RIEUL A;
2MIEUM A;2PIEUP A;2SIOS A;2IEUNG A;2CIEUC A;2CHIEUCH A;2KHIEUKH A;2THIEUTH A;2PHIEUPH A;2HIEUH A;
1KOREAN CHARACTER CHAMKO;3JUEUI;1HANGUL IEUNG U;0KOREAN STANDARD SYMBOL;0CIRCLED IDEOGRAPH ONE;2TWO;
2THREE;2FOUR;2FIVE;2SIX;2SEVEN;2EIGHT;2NINE;2TEN;2MOON;2FIRE;2WATER;2WOOD;2METAL;2EARTH;2SUN;2STOCK;
2HAVE;2SOCIETY;2NAME;2SPECIAL;2FINANCIAL;2CONGRATULATION;2LABOR;2SECRET;2MALE;2FEMALE;2SUITABLE;
2EXCELLENT;2PRINT;2ATTENTION;2ITEM;2REST;2COPY;2CORRECT;2HIGH;2CENTRE;2LOW;2LEFT;2RIGHT;2MEDICINE;
2RELIGION;2STUDY;2SUPERVISE;2ENTERPRISE;2RESOURCE;2ALLIANCE;2NIGHT;1NUMBER THIRTY SIX;3SEVEN;3EIGHT;
3NINE;2FORTY;3ONE;3TWO;3THREE;3FOUR;3FIVE;3SIX;3SEVEN;3EIGHT;3NINE;2FIFTY;
0IDEOGRAPHIC TELEGRAPH SYMBOL FOR JANUARY;4FEBRUARY;4MARCH;4APRIL;4MAY;4JUNE;4JULY;4AUGUST;
4SEPTEMBER;4OCTOBER;4NOVEMBER;4DECEMBER;0SQUARE HG;1ERG;1EV;0LIMITED LIABILITY SIGN;
0CIRCLED KATAKANA A;2I;2U;2E;2O;2KA;2KI;2KU;2KE;2KO;2SA;2SI;2SU;2SE;2SO;2TA;2TI;2TU;2TE;2TO;2NA;2NI;
2NU;2NE;2NO;2HA;2HI;2HU;2HE;2HO;2MA;2MI;2MU;2ME;2MO;2YA;2YU;2YO;2RA;2RI;2RU;2RE;2RO;2WA;2WI;2WE;2WO;
0SQUARE ERA NAME REIWA;1APAATO;1ARUHUA;1ANPEA;1AARU;1ININGU;1INTI;1UON;1ESUKUUDO;1EEKAA;1ONSU;1OOMU;
1KAIRI;1KARATTO;1KARORII;1GARON;1GANMA;1GIGA;1GINII;1KYURII;1GIRUDAA;1KIRO;1KIROGURAMU;1KIROMEETORU;
1KIROWATTO;1GURAMU;1GURAMUTON;1KURUZEIRO;1KUROONE;1KEESU;1KORUNA;1KOOPO;1SAIKURU;1SANTIIMU;1SIRINGU;
1SENTI;1SENTO;1DAASU;1DESI;1DORU;1TON;1NANO;1NOTTO;1HAITU;1PAASENTO;1PAATU;1BAARERU;1PIASUTORU;
1PIKURU;1PIKO;1BIRU;1HUARADDO;1HUIITO;1BUSSYERU;1HURAN;1HEKUTAARU;1PESO;1PENIHI;1HERUTU;1PENSU;
1PEEZI;1BEETA;1POINTO;1BORUTO;1HON;1PONDO;1HOORU;1HOON;1MAIKURO;1MAIRU;1MAHHA;1MARUKU;1MANSYON;
1MIKURON;1MIRI;1MIRIBAARU;1MEGA;1MEGATON;1MEETORU;1YAADO;1YAARU;1YUAN;1RITTORU;1RIRA;1RUPII;
1RUUBURU;1REMU;1RENTOGEN;1WATTO;0IDEOGRAPHIC TELEGRAPH SYMBOL FOR HOUR ZERO;5ONE;5TWO;5THREE;5FOUR;
5FIVE;5SIX;5SEVEN;5EIGHT;5NINE;5TEN;5ELEVEN;5TWELVE;5THIRTEEN;5FOURTEEN;5FIFTEEN;5SIXTEEN;
5SEVENTEEN;5EIGHTEEN;5NINETEEN;5TWENTY;5TWENTY-ONE;5TWENTY-TWO;5TWENTY-THREE;5TWENTY-FOUR;
0SQUARE HPA;1DA;1AU;1BAR;1OV;1PC;1DM;2SQUARED;2CUBED;1IU;1ERA NAME HEISEI;3SYOUWA;3TAISYOU;3MEIZI;
1CORPORATION;1PA AMPS;1NA;1MU A;1MA;1KA;1KB;1MB;1GB;1CAL;1KCAL;1PF;1NF;1MU F;2G;1MG;1KG;1HZ;1KHZ;
1MHZ;1GHZ;1THZ;1MU L;1ML;1DL;1KL;1FM;1NM;1MU M;1MM;1CM;1KM;1MM SQUARED;1CM SQUARED;1M SQUARED;
1KM SQUARED;1MM CUBED;1CM CUBED;1M CUBED;1KM CUBED;1M OVER S;4SQUARED;1PA;1KPA;1MPA;1GPA;1RAD;
2OVER S;4SQUARED;1PS;1NS;1MU S;1MS;1PV;1NV;1MU V;1MV;1KV;1MV MEGA;1PW;1NW;1MU W;1MW;1KW;1MW MEGA;
1K OHM;1M OHM;1AM;1BQ;1CC;1CD;1C OVER KG;1CO;1DB;1GY;1HA;1HP;1IN;1KK;1KM CAPITAL;1KT;1LM;1LN;1LOG;
1LX;1MB SMALL;1MIL;1MOL;1PH;1PM;1PPM;1PR;1SR;1SV;1WB;1V OVER M;1A OVER M;
0IDEOGRAPHIC TELEGRAPH SYMBOL FOR DAY ONE;5TWO;5THREE;5FOUR;5FIVE;5SIX;5SEVEN;5EIGHT;5NINE;5TEN;
5ELEVEN;5TWELVE;5THIRTEEN;5FOURTEEN;5FIFTEEN;5SIXTEEN;5SEVENTEEN;5EIGHTEEN;5NINETEEN;5TWENTY;
5TWENTY-ONE;5TWENTY-TWO;5TWENTY-THREE;5TWENTY-FOUR;5TWENTY-FIVE;5TWENTY-SIX;5TWENTY-SEVEN;
5TWENTY-EIGHT;5TWENTY-NINE;5THIRTY;5THIRTY-ONE;0SQUARE GAL;=4DC0;0HEXAGRAM FOR THE CREATIVE HEAVEN;
3RECEPTIVE EARTH;2DIFFICULTY AT THE BEGINNING;2YOUTHFUL FOLLY;2WAITING;2CONFLICT;2THE ARMY;
2HOLDING TOGETHER;2SMALL TAMING;2TREADING;2PEACE;2STANDSTILL;2FELLOWSHIP;2GREAT POSSESSION;2MODESTY;
2ENTHUSIASM;2FOLLOWING;2WORK ON THE DECAYED;2APPROACH;2CONTEMPLATION;2BITING THROUGH;2GRACE;
2SPLITTING APART;2RETURN;2INNOCENCE;2GREAT TAMING;2MOUTH CORNERS;2GREAT PREPONDERANCE;
2THE ABYSMAL WATER;3CLINGING FIRE;2INFLUENCE;2DURATION;2RETREAT;2GREAT POWER;2PROGRESS;
2DARKENING OF THE LIGHT;2THE FAMILY;2OPPOSITION;2OBSTRUCTION;2DELIVERANCE;2DECREASE;2INCREASE;
2BREAKTHROUGH;2COMING TO MEET;2GATHERING TOGETHER;2PUSHING UPWARD;2OPPRESSION;2THE WELL;2REVOLUTION;
2THE CAULDRON;3AROUSING THUNDER;3KEEPING STILL MOUNTAIN;2DEVELOPMENT;2THE MARRYING MAIDEN;
2ABUNDANCE;2THE WANDERER;3GENTLE WIND;3JOYOUS LAKE;2DISPERSION;2LIMITATION;2INNER TRUTH;
2SMALL PREPONDERANCE;2AFTER COMPLETION;2BEFORE COMPLETION;=A000;0YI SYLLABLE IT;2IX;2I;2IP;2IET;
2IEX;2IE;2IEP;2AT;2AX;2A;2AP;2UOX;2UO;2UOP;2OT;2OX;2O;2OP;2EX;2E;2WU;2BIT;2BIX;2BI;2BIP;2BIET;2BIEX;
2BIE;2BIEP;2BAT;2BAX;2BA;2BAP;2BUOX;2BUO;2BUOP;2BOT;2BOX;2BO;2BOP;2BEX;2BE;2BEP;2BUT;2BUX;2BU;2BUP;
2BURX;2BUR;2BYT;2BYX;2BY;2BYP;2BYRX;2BYR;2PIT;2PIX;2PI;2PIP;2PIEX;2PIE;2PIEP;2PAT;2PAX;2PA;2PAP;
2PUOX;2PUO;2PUOP;2POT;2POX;2PO;2POP;2PUT;2PUX;2PU;2PUP;2PURX;2PUR;2PYT;2PYX;2PY;2PYP;2PYRX;2PYR;
2BBIT;2BBIX;2BBI;2BBIP;2BBIET;2BBIEX;2BBIE;2BBIEP;2BBAT;2BBAX;2BBA;2BBAP;2BBUOX;2BBUO;2BBUOP;2BBOT;
2BBOX;2BBO;2BBOP;2BBEX;2BBE;2BBEP;2BBUT;2BBUX;2BBU;2BBUP;2BBURX;2BBUR;2BBYT;2BBYX;2BBY;2BBYP;2NBIT;
2NBIX;2NBI;2NBIP;2NBIEX;2NBIE;2NBIEP;2NBAT;2NBAX;2NBA;2NBAP;2NBOT;2NBOX;2NBO;2NBOP;2NBUT;2NBUX;2NBU;
2NBUP;2NBURX;2NBUR;2NBYT;2NBYX;2NBY;2NBYP;2NBYRX;2NBYR;2HMIT;2HMIX;2HMI;2HMIP;2HMIEX;2HMIE;2HMIEP;
2HMAT;2HMAX;2HMA;2HMAP;2HMUOX;2HMUO;2HMUOP;2HMOT;2HMOX;2HMO;2HMOP;2HMUT;2HMUX;2HMU;2HMUP;2HMURX;
2HMUR;2HMYX;2HMY;2HMYP;2HMYRX;2HMYR;2MIT;2MIX;2MI;2MIP;2MIEX;2MIE;2MIEP;2MAT;2MAX;2MA;2MAP;2MUOT;
2MUOX;2MUO;2MUOP;2MOT;2MOX;2MO;2MOP;2MEX;2ME;2MUT;2MUX;2MU;2MUP;2MURX;2MUR;2MYT;2MYX;2MY;2MYP;2FIT;
2FIX;2FI;2FIP;2FAT;2FAX;2FA;2FAP;2FOX;2FO;2FOP;2FUT;2FUX;2FU;2FUP;2FURX;2FUR;2FYT;2FYX;2FY;2FYP;
2VIT;2VIX;2VI;2VIP;2VIET;2VIEX;2VIE;2VIEP;2VAT;2VAX;2VA;2VAP;2VOT;2VOX;2VO;2VOP;2VEX;2VEP;2VUT;2VUX;
2VU;2VUP;2VURX;2VUR;2VYT;2VYX;2VY;2VYP;2VYRX;2VYR;2DIT;2DIX;2DI;2DIP;2DIEX;2DIE;2DIEP;2DAT;2DAX;2DA;
2DAP;2DUOX;2DUO;2DOT;2DOX;2DO;2DOP;2DEX;2DE;2DEP;2DUT;2DUX;2DU;2DUP;2DURX;2DUR;2TIT;2TIX;2TI;2TIP;
2TIEX;2TIE;2TIEP;2TAT;2TAX;2TA;2TAP;2TUOT;2TUOX;2TUO;2TUOP;2TOT;2TOX;2TO;2TOP;2TEX;2TE;2TEP;2TUT;
2TUX;2TU;2TUP;2TURX;2TUR;2DDIT;2DDIX;2DDI;2DDIP;2DDIEX;2DDIE;2DDIEP;2DDAT;2DDAX;2DDA;2DDAP;2DDUOX;
2DDUO;2DDUOP;2DDOT;2DDOX;2DDO;2DDOP;2DDEX;2DDE;2DDEP;2DDUT;2DDUX;2DDU;2DDUP;2DDURX;2DDUR;2NDIT;
2NDIX;2NDI;2NDIP;2NDIEX;2NDIE;2NDAT;2NDAX;2NDA;2NDAP;2NDOT;2NDOX;2NDO;2NDOP;2NDEX;2NDE;2NDEP;2NDUT;
2NDUX;2NDU;2NDUP;2NDURX;2NDUR;2HNIT;2HNIX;2HNI;2HNIP;2HNIET;2HNIEX;2HNIE;2HNIEP;2HNAT;2HNAX;2HNA;
2HNAP;2HNUOX;2HNUO;2HNOT;2HNOX;2HNOP;2HNEX;2HNE;2HNEP;2HNUT;2NIT;2NIX;2NI;2NIP;2NIEX;2NIE;2NIEP;
2NAX;2NA;2NAP;2NUOX;2NUO;2NUOP;2NOT;2NOX;2NO;2NOP;2NEX;2NE;2NEP;2NUT;2NUX;2NU;2NUP;2NURX;2NUR;2HLIT;
2HLIX;2HLI;2HLIP;2HLIEX;2HLIE;2HLIEP;2HLAT;2HLAX;2HLA;2HLAP;2HLUOX;2HLUO;2HLUOP;2HLOX;2HLO;2HLOP;
2HLEX;2HLE;2HLEP;2HLUT;2HLUX;2HLU;2HLUP;2HLURX;2HLUR;2HLYT;2HLYX;2HLY;2HLYP;2HLYRX;2HLYR;2LIT;2LIX;
2LI;2LIP;2LIET;2LIEX;2LIE;2LIEP;2LAT;2LAX;2LA;2LAP;2LUOT;2LUOX;2LUO;2LUOP;2LOT;2LOX;2LO;2LOP;2LEX;
2LE;2LEP;2LUT;2LUX;2LU;2LUP;2LURX;2LUR;2LYT;2LYX;2LY;2LYP;2LYRX;2LYR;2GIT;2GIX;2GI;2GIP;2GIET;2GIEX;
2GIE;2GIEP;2GAT;2GAX;2GA;2GAP;2GUOT;2GUOX;2GUO;2GUOP;2GOT;2GOX;2GO;2GOP;2GET;2GEX;2GE;2GEP;2GUT;
2GUX;2GU;2GUP;2GURX;2GUR;2KIT;2KIX;2KI;2KIP;2KIEX;2KIE;2KIEP;2KAT;2KAX;2KA;2KAP;2KUOX;2KUO;2KUOP;
2KOT;2KOX;2KO;2KOP;2KET;2KEX;2KE;2KEP;2KUT;2KUX;2KU;2KUP;2KURX;2KUR;2GGIT;2GGIX;2GGI;2GGIEX;2GGIE;
2GGIEP;2GGAT;2GGAX;2GGA;2GGAP;2GGUOT;2GGUOX;2GGUO;2GGUOP;2GGOT;2GGOX;2GGO;2GGOP;2GGET;2GGEX;2GGE;
2GGEP;2GGUT;2GGUX;2GGU;2GGUP;2GGURX;2GGUR;2MGIEX;2MGIE;2MGAT;2MGAX;2MGA;2MGAP;2MGUOX;2MGUO;2MGUOP;
2MGOT;2MGOX;2MGO;2MGOP;2MGEX;2MGE;2MGEP;2MGUT;2MGUX;2MGU;2MGUP;2MGURX;2MGUR;2HXIT;2HXIX;2HXI;2HXIP;
2HXIET;2HXIEX;2HXIE;2HXIEP;2HXAT;2HXAX;2HXA;2HXAP;2HXUOT;2HXUOX;2HXUO;2HXUOP;2HXOT;2HXOX;2HXO;2HXOP;
2HXEX;2HXE;2HXEP;2NGIEX;2NGIE;2NGIEP;2NGAT;2NGAX;2NGA;2NGAP;2NGUOT;2NGUOX;2NGUO;2NGOT;2NGOX;2NGO;
2NGOP;2NGEX;2NGE;2NGEP;2HIT;2HIEX;2HIE;2HAT;2HAX;2HA;2HAP;2HUOT;2HUOX;2HUO;2HUOP;2HOT;2HOX;2HO;2HOP;
2HEX;2HE;2HEP;2WAT;2WAX;2WA;2WAP;2WUOX;2WUO;2WUOP;2WOX;2WO;2WOP;2WEX;2WE;2WEP;2ZIT;2ZIX;2ZI;2ZIP;
2ZIEX;2ZIE;2ZIEP;2ZAT;2ZAX;2ZA;2ZAP;2ZUOX;2ZUO;2ZUOP;2ZOT;2ZOX;2ZO;2ZOP;2ZEX;2ZE;2ZEP;2ZUT;2ZUX;2ZU;
2ZUP;2ZURX;2ZUR;2ZYT;2ZYX;2ZY;2ZYP;2ZYRX;2ZYR;2CIT;2CIX;2CI;2CIP;2CIET;2CIEX;2CIE;2CIEP;2CAT;2CAX;
2CA;2CAP;2CUOX;2CUO;2CUOP;2COT;2COX;2CO;2COP;2CEX;2CE;2CEP;2CUT;2CUX;2CU;2CUP;2CURX;2CUR;2CYT;2CYX;
2CY;2CYP;2CYRX;2CYR;2ZZIT;2ZZIX;2ZZI;2ZZIP;2ZZIET;2ZZIEX;2ZZIE;2ZZIEP;2ZZAT;2ZZAX;2ZZA;2ZZAP;2ZZOX;
2ZZO;2ZZOP;2ZZEX;2ZZE;2ZZEP;2ZZUX;2ZZU;2ZZUP;2ZZURX;2ZZUR;2ZZYT;2ZZYX;2ZZY;2ZZYP;2ZZYRX;2ZZYR;2NZIT;
2NZIX;2NZI;2NZIP;2NZIEX;2NZIE;2NZIEP;2NZAT;2NZAX;2NZA;2NZAP;2NZUOX;2NZUO;2NZOX;2NZOP;2NZEX;2NZE;
2NZUX;2NZU;2NZUP;2NZURX;2NZUR;2NZYT;2NZYX;2NZY;2NZYP;2NZYRX;2NZYR;2SIT;2SIX;2SI;2SIP;2SIEX;2SIE;
2SIEP;2SAT;2SAX;2SA;2SAP;2SUOX;2SUO;2SUOP;2SOT;2SOX;2SO;2SOP;2SEX;2SE;2SEP;2SUT;2SUX;2SU;2SUP;2SURX;
2SUR;2SYT;2SYX;2SY;2SYP;2SYRX;2SYR;2SSIT;2SSIX;2SSI;2SSIP;2SSIEX;2SSIE;2SSIEP;2SSAT;2SSAX;2SSA;
2SSAP;2SSOT;2SSOX;2SSO;2SSOP;2SSEX;2SSE;2SSEP;2SSUT;2SSUX;2SSU;2SSUP;2SSYT;2SSYX;2SSY;2SSYP;2SSYRX;
2SSYR;2ZHAT;2ZHAX;2ZHA;2ZHAP;2ZHUOX;2ZHUO;2ZHUOP;2ZHOT;2ZHOX;2ZHO;2ZHOP;2ZHET;2ZHEX;2ZHE;2ZHEP;
2ZHUT;2ZHUX;2ZHU;2ZHUP;2ZHURX;2ZHUR;2ZHYT;2ZHYX;2ZHY;2ZHYP;2ZHYRX;2ZHYR;2CHAT;2CHAX;2CHA;2CHAP;
2CHUOT;2CHUOX;2CHUO;2CHUOP;2CHOT;2CHOX;2CHO;2CHOP;2CHET;2CHEX;2CHE;2CHEP;2CHUX;2CHU;2CHUP;2CHURX;
2CHUR;2CHYT;2CHYX;2CHY;2CHYP;2CHYRX;2CHYR;2RRAX;2RRA;2RRUOX;2RRUO;2RROT;2RROX;2RRO;2RROP;2RRET;
2RREX;2RRE;2RREP;2RRUT;2RRUX;2RRU;2RRUP;2RRURX;2RRUR;2RRYT;2RRYX;2RRY;2RRYP;2RRYRX;2RRYR;2NRAT;
2NRAX;2NRA;2NRAP;2NROX;2NRO;2NROP;2NRET;2NREX;2NRE;2NREP;2NRUT;2NRUX;2NRU;2NRUP;2NRURX;2NRUR;2NRYT;
2NRYX;2NRY;2NRYP;2NRYRX;2NRYR;2SHAT;2SHAX;2SHA;2SHAP;2SHUOX;2SHUO;2SHUOP;2SHOT;2SHOX;2SHO;2SHOP;
2SHET;2SHEX;2SHE;2SHEP;2SHUT;2SHUX;2SHU;2SHUP;2SHURX;2SHUR;2SHYT;2SHYX;2SHY;2SHYP;2SHYRX;2SHYR;2RAT;
2RAX;2RA;2RAP;2RUOX;2RUO;2RUOP;2ROT;2ROX;2RO;2ROP;2REX;2RE;2REP;2RUT;2RUX;2RU;2RUP;2RURX;2RUR;2RYT;
2RYX;2RY;2RYP;2RYRX;2RYR;2JIT;2JIX;2JI;2JIP;2JIET;2JIEX;2JIE;2JIEP;2JUOT;2JUOX;2JUO;2JUOP;2JOT;2JOX;
2JO;2JOP;2JUT;2JUX;2JU;2JUP;2JURX;2JUR;2JYT;2JYX;2JY;2JYP;2JYRX;2JYR;2QIT;2QIX;2QI;2QIP;2QIET;2QIEX;
2QIE;2QIEP;2QUOT;2QUOX;2QUO;2QUOP;2QOT;2QOX;2QO;2QOP;2QUT;2QUX;2QU;2QUP;2QURX;2QUR;2QYT;2QYX;2QY;
2QYP;2QYRX;2QYR;2JJIT;2JJIX;2JJI;2JJIP;2JJIET;2JJIEX;2JJIE;2JJIEP;2JJUOX;2JJUO;2JJUOP;2JJOT;2JJOX;
2JJO;2JJOP;2JJUT;2JJUX;2JJU;2JJUP;2JJURX;2JJUR;2JJYT;2JJYX;2JJY;2JJYP;2NJIT;2NJIX;2NJI;2NJIP;2NJIET;
2NJIEX;2NJIE;2NJIEP;2NJUOX;2NJUO;2NJOT;2NJOX;2NJO;2NJOP;2NJUX;2NJU;2NJUP;2NJURX;2NJUR;2NJYT;2NJYX;
2NJY;2NJYP;2NJYRX;2NJYR;2NYIT;2NYIX;2NYI;2NYIP;2NYIET;2NYIEX;2NYIE;2NYIEP;2NYUOX;2NYUO;2NYUOP;2NYOT;
2NYOX;2NYO;2NYOP;2NYUT;2NYUX;2NYU;2NYUP;2XIT;2XIX;2XI;2XIP;2XIET;2XIEX;2XIE;2XIEP;2XUOX;2XUO;2XOT;
2XOX;2XO;2XOP;2XYT;2XYX;2XY;2XYP;2XYRX;2XYR;2YIT;2YIX;2YI;2YIP;2YIET;2YIEX;2YIE;2YIEP;2YUOT;2YUOX;
2YUO;2YUOP;2YOT;2YOX;2YO;2YOP;2YUT;2YUX;2YU;2YUP;2YURX;2YUR;2YYT;2YYX;2YY;2YYP;2YYRX;2YYR;=A490;
1RADICAL QOT;2LI;2KIT;2NYIP;2CYP;2SSI;2GGOP;2GEP;2MI;2HXIT;2LYR;2BBUT;2MOP;2YO;2PUT;2HXUO;2TAT;2GA;
2ZUP;2CYT;2DDUR;2BUR;2GGUO;2NYOP;2TU;2OP;2JJUT;2ZOT;2PYT;2HMO;2YIT;2VUR;2SHY;2VEP;2ZA;2JO;2NZUP;
2JJY;2GOT;2JJIE;2WO;2DU;2SHUR;2LIE;2CY;2CUOP;2CIP;2HXOP;2SHAT;2ZUR;2SHOP;2CHE;2ZZIET;2NBIE;2KE;
=D7B0;0HANGUL JUNGSEONG O-YEO;2O-O-I;2YO-A;2YO-AE;2YO-EO;2U-YEO;2U-I-I;2YU-AE;2YU-O;2EU-A;2EU-EO;
2EU-E;2EU-O;2I-YA-O;2I-YAE;2I-YEO;2I-YE;2I-O-I;2I-YO;2I-YU;2I-I;2ARAEA-A;2ARAEA-E;=D7CB;
1JONGSEONG NIEUN-RIEUL;2NIEUN-CHIEUCH;2SSANGTIKEUT;2SSANGTIKEUT-PIEUP;2TIKEUT-PIEUP;2TIKEUT-SIOS;
2TIKEUT-SIOS-KIYEOK;2TIKEUT-CIEUC;2TIKEUT-CHIEUCH;2TIKEUT-THIEUTH;2RIEUL-SSANGKIYEOK;
2RIEUL-KIYEOK-HIEUH;2SSANGRIEUL-KHIEUKH;2RIEUL-MIEUM-HIEUH;2RIEUL-PIEUP-TIKEUT;2RIEUL-PIEUP-PHIEUPH;
2RIEUL-YESIEUNG;2RIEUL-YEORINHIEUH-HIEUH;2KAPYEOUNRIEUL;2MIEUM-NIEUN;2MIEUM-SSANGNIEUN;2SSANGMIEUM;
2MIEUM-PIEUP-SIOS;2MIEUM-CIEUC;2PIEUP-TIKEUT;2PIEUP-RIEUL-PHIEUPH;2PIEUP-MIEUM;2SSANGPIEUP;
2PIEUP-SIOS-TIKEUT;2PIEUP-CIEUC;2PIEUP-CHIEUCH;2SIOS-MIEUM;2SIOS-KAPYEOUNPIEUP;2SSANGSIOS-KIYEOK;
2SSANGSIOS-TIKEUT;2SIOS-PANSIOS;2SIOS-CIEUC;2SIOS-CHIEUCH;2SIOS-THIEUTH;2SIOS-HIEUH;2PANSIOS-PIEUP;
2PANSIOS-KAPYEOUNPIEUP;2YESIEUNG-MIEUM;2YESIEUNG-HIEUH;2CIEUC-PIEUP;2CIEUC-SSANGPIEUP;2SSANGCIEUC;
2PHIEUPH-SIOS;2PHIEUPH-THIEUTH;=F900;0CJK COMPATIBILITY IDEOGRAPH-F900;2IDEOGRAPH-F901;
2IDEOGRAPH-F902;2IDEOGRAPH-F903;2IDEOGRAPH-F904;2IDEOGRAPH-F905;2IDEOGRAPH-F906;2IDEOGRAPH-F907;
2IDEOGRAPH-F908;2IDEOGRAPH-F909;2IDEOGRAPH-F90A;2IDEOGRAPH-F90B;2IDEOGRAPH-F90C;2IDEOGRAPH-F90D;
2IDEOGRAPH-F90E;2IDEOGRAPH-F90F;2IDEOGRAPH-F910;2IDEOGRAPH-F911;2IDEOGRAPH-F912;2IDEOGRAPH-F913;
2IDEOGRAPH-F914;2IDEOGRAPH-F915;2IDEOGRAPH-F916;2IDEOGRAPH-F917;2IDEOGRAPH-F918;2IDEOGRAPH-F919;
2IDEOGRAPH-F91A;2IDEOGRAPH-F91B;2IDEOGRAPH-F91C;2IDEOGRAPH-F91D;2IDEOGRAPH-F91E;2IDEOGRAPH-F91F;
2IDEOGRAPH-F920;2IDEOGRAPH-F921;2IDEOGRAPH-F922;2IDEOGRAPH-F923;2IDEOGRAPH-F924;2IDEOGRAPH-F925;
2IDEOGRAPH-F926;2IDEOGRAPH-F927;2IDEOGRAPH-F928;2IDEOGRAPH-F929;2IDEOGRAPH-F92A;2IDEOGRAPH-F92B;
2IDEOGRAPH-F92C;2IDEOGRAPH-F92D;2IDEOGRAPH-F92E;2IDEOGRAPH-F92F;2IDEOGRAPH-F930;2IDEOGRAPH-F931;
2IDEOGRAPH-F932;2IDEOGRAPH-F933;2IDEOGRAPH-F934;2IDEOGRAPH-F935;2IDEOGRAPH-F936;2IDEOGRAPH-F937;
2IDEOGRAPH-F938;2IDEOGRAPH-F939;2IDEOGRAPH-F93A;2IDEOGRAPH-F93B;2IDEOGRAPH-F93C;2IDEOGRAPH-F93D;
2IDEOGRAPH-F93E;2IDEOGRAPH-F93F;2IDEOGRAPH-F940;2IDEOGRAPH-F941;2IDEOGRAPH-F942;2IDEOGRAPH-F943;
2IDEOGRAPH-F944;2IDEOGRAPH-F945;2IDEOGRAPH-F946;2IDEOGRAPH-F947;2IDEOGRAPH-F948;2IDEOGRAPH-F949;
2IDEOGRAPH-F94A;2IDEOGRAPH-F94B;2IDEOGRAPH-F94C;2IDEOGRAPH-F94D;2IDEOGRAPH-F94E;2IDEOGRAPH-F94F;
2IDEOGRAPH-F950;2IDEOGRAPH-F951;2IDEOGRAPH-F952;2IDEOGRAPH-F953;2IDEOGRAPH-F954;2IDEOGRAPH-F955;
2IDEOGRAPH-F956;2IDEOGRAPH-F957;2IDEOGRAPH-F958;2IDEOGRAPH-F959;2IDEOGRAPH-F95A;2IDEOGRAPH-F95B;
2IDEOGRAPH-F95C;2IDEOGRAPH-F95D;2IDEOGRAPH-F95E;2IDEOGRAPH-F95F;2IDEOGRAPH-F960;2IDEOGRAPH-F961;
2IDEOGRAPH-F962;2IDEOGRAPH-F963;2IDEOGRAPH-F964;2IDEOGRAPH-F965;2IDEOGRAPH-F966;2IDEOGRAPH-F967;
2IDEOGRAPH-F968;2IDEOGRAPH-F969;2IDEOGRAPH-F96A;2IDEOGRAPH-F96B;2IDEOGRAPH-F96C;2IDEOGRAPH-F96D;
2IDEOGRAPH-F96E;2IDEOGRAPH-F96F;2IDEOGRAPH-F970;2IDEOGRAPH-F971;2IDEOGRAPH-F972;2IDEOGRAPH-F973;
2IDEOGRAPH-F974;2IDEOGRAPH-F975;2IDEOGRAPH-F976;2IDEOGRAPH-F977;2IDEOGRAPH-F978;2IDEOGRAPH-F979;
2IDEOGRAPH-F97A;2IDEOGRAPH-F97B;2IDEOGRAPH-F97C;2IDEOGRAPH-F97D;2IDEOGRAPH-F97E;2IDEOGRAPH-F97F;
2IDEOGRAPH-F980;2IDEOGRAPH-F981;2IDEOGRAPH-F982;2IDEOGRAPH-F983;2IDEOGRAPH-F984;2IDEOGRAPH-F985;
2IDEOGRAPH-F986;2IDEOGRAPH-F987;2IDEOGRAPH-F988;2IDEOGRAPH-F989;2IDEOGRAPH-F98A;2IDEOGRAPH-F98B;
2IDEOGRAPH-F98C;2IDEOGRAPH-F98D;2IDEOGRAPH-F98E;2IDEOGRAPH-F98F;2IDEOGRAPH-F990;2IDEOGRAPH-F991;
2IDEOGRAPH-F992;2IDEOGRAPH-F993;2IDEOGRAPH-F994;2IDEOGRAPH-F995;2IDEOGRAPH-F996;2IDEOGRAPH-F997;
2IDEOGRAPH-F998;2IDEOGRAPH-F999;2IDEOGRAPH-F99A;2IDEOGRAPH-F99B;2IDEOGRAPH-F99C;2IDEOGRAPH-F99D;
2IDEOGRAPH-F99E;2IDEOGRAPH-F99F;2IDEOGRAPH-F9A0;2IDEOGRAPH-F9A1;2IDEOGRAPH-F9A2;2IDEOGRAPH-F9A3;
2IDEOGRAPH-F9A4;2IDEOGRAPH-F9A5;2IDEOGRAPH-F9A6;2IDEOGRAPH-F9A7;2IDEOGRAPH-F9A8;2IDEOGRAPH-F9A9;
2IDEOGRAPH-F9AA;2IDEOGRAPH-F9AB;2IDEOGRAPH-F9AC;2IDEOGRAPH-F9AD;2IDEOGRAPH-F9AE;2IDEOGRAPH-F9AF;
2IDEOGRAPH-F9B0;2IDEOGRAPH-F9B1;2IDEOGRAPH-F9B2;2IDEOGRAPH-F9B3;2IDEOGRAPH-F9B4;2IDEOGRAPH-F9B5;
2IDEOGRAPH-F9B6;2IDEOGRAPH-F9B7;2IDEOGRAPH-F9B8;2IDEOGRAPH-F9B9;2IDEOGRAPH-F9BA;2IDEOGRAPH-F9BB;
2IDEOGRAPH-F9BC;2IDEOGRAPH-F9BD;2IDEOGRAPH-F9BE;2IDEOGRAPH-F9BF;2IDEOGRAPH-F9C0;2IDEOGRAPH-F9C1;
2IDEOGRAPH-F9C2;2IDEOGRAPH-F9C3;2IDEOGRAPH-F9C4;2IDEOGRAPH-F9C5;2IDEOGRAPH-F9C6;2IDEOGRAPH-F9C7;
2IDEOGRAPH-F9C8;2IDEOGRAPH-F9C9;2IDEOGRAPH-F9CA;2IDEOGRAPH-F9CB;2IDEOGRAPH-F9CC;2IDEOGRAPH-F9CD;
2IDEOGRAPH-F9CE;2IDEOGRAPH-F9CF;2IDEOGRAPH-F9D0;2IDEOGRAPH-F9D1;2IDEOGRAPH-F9D2;2IDEOGRAPH-F9D3;
2IDEOGRAPH-F9D4;2IDEOGRAPH-F9D5;2IDEOGRAPH-F9D6;2IDEOGRAPH-F9D7;2IDEOGRAPH-F9D8;2IDEOGRAPH-F9D9;
2IDEOGRAPH-F9DA;2IDEOGRAPH-F9DB;2IDEOGRAPH-F9DC;2IDEOGRAPH-F9DD;2IDEOGRAPH-F9DE;2IDEOGRAPH-F9DF;
2IDEOGRAPH-F9E0;2IDEOGRAPH-F9E1;2IDEOGRAPH-F9E2;2IDEOGRAPH-F9E3;2IDEOGRAPH-F9E4;2IDEOGRAPH-F9E5;
2IDEOGRAPH-F9E6;2IDEOGRAPH-F9E7;2IDEOGRAPH-F9E8;2IDEOGRAPH-F9E9;2IDEOGRAPH-F9EA;2IDEOGRAPH-F9EB;
2IDEOGRAPH-F9EC;2IDEOGRAPH-F9ED;2IDEOGRAPH-F9EE;2IDEOGRAPH-F9EF;2IDEOGRAPH-F9F0;2IDEOGRAPH-F9F1;
2IDEOGRAPH-F9F2;2IDEOGRAPH-F9F3;2IDEOGRAPH-F9F4;2IDEOGRAPH-F9F5;2IDEOGRAPH-F9F6;2IDEOGRAPH-F9F7;
2IDEOGRAPH-F9F8;2IDEOGRAPH-F9F9;2IDEOGRAPH-F9FA;2IDEOGRAPH-F9FB;2IDEOGRAPH-F9FC;2IDEOGRAPH-F9FD;
2IDEOGRAPH-F9FE;2IDEOGRAPH-F9FF;2IDEOGRAPH-FA00;2IDEOGRAPH-FA01;2IDEOGRAPH-FA02;2IDEOGRAPH-FA03;
2IDEOGRAPH-FA04;2IDEOGRAPH-FA05;2IDEOGRAPH-FA06;2IDEOGRAPH-FA07;2IDEOGRAPH-FA08;2IDEOGRAPH-FA09;
2IDEOGRAPH-FA0A;2IDEOGRAPH-FA0B;2IDEOGRAPH-FA0C;2IDEOGRAPH-FA0D;2IDEOGRAPH-FA0E;2IDEOGRAPH-FA0F;
2IDEOGRAPH-FA10;2IDEOGRAPH-FA11;2IDEOGRAPH-FA12;2IDEOGRAPH-FA13;2IDEOGRAPH-FA14;2IDEOGRAPH-FA15;
2IDEOGRAPH-FA16;2IDEOGRAPH-FA17;2IDEOGRAPH-FA18;2IDEOGRAPH-FA19;2IDEOGRAPH-FA1A;2IDEOGRAPH-FA1B;
2IDEOGRAPH-FA1C;2IDEOGRAPH-FA1D;2IDEOGRAPH-FA1E;2IDEOGRAPH-FA1F;2IDEOGRAPH-FA20;2IDEOGRAPH-FA21;
2IDEOGRAPH-FA22;2IDEOGRAPH-FA23;2IDEOGRAPH-FA24;2IDEOGRAPH-FA25;2IDEOGRAPH-FA26;2IDEOGRAPH-FA27;
2IDEOGRAPH-FA28;2IDEOGRAPH-FA29;2IDEOGRAPH-FA2A;2IDEOGRAPH-FA2B;2IDEOGRAPH-FA2C;2IDEOGRAPH-FA2D;
2IDEOGRAPH-FA2E;2IDEOGRAPH-FA2F;2IDEOGRAPH-FA30;2IDEOGRAPH-FA31;2IDEOGRAPH-FA32;2IDEOGRAPH-FA33;
2IDEOGRAPH-FA34;2IDEOGRAPH-FA35;2IDEOGRAPH-FA36;2IDEOGRAPH-FA37;2IDEOGRAPH-FA38;2IDEOGRAPH-FA39;
2IDEOGRAPH-FA3A;2IDEOGRAPH-FA3B;2IDEOGRAPH-FA3C;2IDEOGRAPH-FA3D;2IDEOGRAPH-FA3E;2IDEOGRAPH-FA3F;
2IDEOGRAPH-FA40;2IDEOGRAPH-FA41;2IDEOGRAPH-FA42;2IDEOGRAPH-FA43;2IDEOGRAPH-FA44;2IDEOGRAPH-FA45;
2IDEOGRAPH-FA46;2IDEOGRAPH-FA47;2IDEOGRAPH-FA48;2IDEOGRAPH-FA49;2IDEOGRAPH-FA4A;2IDEOGRAPH-FA4B;
2IDEOGRAPH-FA4C;2IDEOGRAPH-FA4D;2IDEOGRAPH-FA4E;2IDEOGRAPH-FA4F;2IDEOGRAPH-FA50;2IDEOGRAPH-FA51;
2IDEOGRAPH-FA52;2IDEOGRAPH-FA53;2IDEOGRAPH-FA54;2IDEOGRAPH-FA55;2IDEOGRAPH-FA56;2IDEOGRAPH-FA57;
2IDEOGRAPH-FA58;2IDEOGRAPH-FA59;2IDEOGRAPH-FA5A;2IDEOGRAPH-FA5B;2IDEOGRAPH-FA5C;2IDEOGRAPH-FA5D;
2IDEOGRAPH-FA5E;2IDEOGRAPH-FA5F;2IDEOGRAPH-FA60;2IDEOGRAPH-FA61;2IDEOGRAPH-FA62;2IDEOGRAPH-FA63;
2IDEOGRAPH-FA64;2IDEOGRAPH-FA65;2IDEOGRAPH-FA66;2IDEOGRAPH-FA67;2IDEOGRAPH-FA68;2IDEOGRAPH-FA69;
2IDEOGRAPH-FA6A;2IDEOGRAPH-FA6B;2IDEOGRAPH-FA6C;2IDEOGRAPH-FA6D;=FA70;2IDEOGRAPH-FA70;
2IDEOGRAPH-FA71;2IDEOGRAPH-FA72;2IDEOGRAPH-FA73;2IDEOGRAPH-FA74;2IDEOGRAPH-FA75;2IDEOGRAPH-FA76;
2IDEOGRAPH-FA77;2IDEOGRAPH-FA78;2IDEOGRAPH-FA79;2IDEOGRAPH-FA7A;2IDEOGRAPH-FA7B;2IDEOGRAPH-FA7C;
2IDEOGRAPH-FA7D;2IDEOGRAPH-FA7E;2IDEOGRAPH-FA7F;2IDEOGRAPH-FA80;2IDEOGRAPH-FA81;2IDEOGRAPH-FA82;
2IDEOGRAPH-FA83;2IDEOGRAPH-FA84;2IDEOGRAPH-FA85;2IDEOGRAPH-FA86;2IDEOGRAPH-FA87;2IDEOGRAPH-FA88;
2IDEOGRAPH-FA89;2IDEOGRAPH-FA8A;2IDEOGRAPH-FA8B;2IDEOGRAPH-FA8C;2IDEOGRAPH-FA8D;2IDEOGRAPH-FA8E;
2IDEOGRAPH-FA8F;2IDEOGRAPH-FA90;2IDEOGRAPH-FA91;2IDEOGRAPH-FA92;2IDEOGRAPH-FA93;2IDEOGRAPH-FA94;
2IDEOGRAPH-FA95;2IDEOGRAPH-FA96;2IDEOGRAPH-FA97;2IDEOGRAPH-FA98;2IDEOGRAPH-FA99;2IDEOGRAPH-FA9A;
2IDEOGRAPH-FA9B;2IDEOGRAPH-FA9C;2IDEOGRAPH-FA9D;2IDEOGRAPH-FA9E;2IDEOGRAPH-FA9F;2IDEOGRAPH-FAA0;
2IDEOGRAPH-FAA1;2IDEOGRAPH-FAA2;2IDEOGRAPH-FAA3;2IDEOGRAPH-FAA4;2IDEOGRAPH-FAA5;2IDEOGRAPH-FAA6;
2IDEOGRAPH-FAA7;2IDEOGRAPH-FAA8;2IDEOGRAPH-FAA9;2IDEOGRAPH-FAAA;2IDEOGRAPH-FAAB;2IDEOGRAPH-FAAC;
2IDEOGRAPH-FAAD;2IDEOGRAPH-FAAE;2IDEOGRAPH-FAAF;2IDEOGRAPH-FAB0;2IDEOGRAPH-FAB1;2IDEOGRAPH-FAB2;
2IDEOGRAPH-FAB3;2IDEOGRAPH-FAB4;2IDEOGRAPH-FAB5;2IDEOGRAPH-FAB6;2IDEOGRAPH-FAB7;2IDEOGRAPH-FAB8;
2IDEOGRAPH-FAB9;2IDEOGRAPH-FABA;2IDEOGRAPH-FABB;2IDEOGRAPH-FABC;2IDEOGRAPH-FABD;2IDEOGRAPH-FABE;
2IDEOGRAPH-FABF;2IDEOGRAPH-FAC0;2IDEOGRAPH-FAC1;2IDEOGRAPH-FAC2;2IDEOGRAPH-FAC3;2IDEOGRAPH-FAC4;
2IDEOGRAPH-FAC5;2IDEOGRAPH-FAC6;2IDEOGRAPH-FAC7;2IDEOGRAPH-FAC8;2IDEOGRAPH-FAC9;2IDEOGRAPH-FACA;
2IDEOGRAPH-FACB;2IDEOGRAPH-FACC;2IDEOGRAPH-FACD;2IDEOGRAPH-FACE;2IDEOGRAPH-FACF;2IDEOGRAPH-FAD0;
2IDEOGRAPH-FAD1;2IDEOGRAPH-FAD2;2IDEOGRAPH-FAD3;2IDEOGRAPH-FAD4;2IDEOGRAPH-FAD5;2IDEOGRAPH-FAD6;
2IDEOGRAPH-FAD7;2IDEOGRAPH-FAD8;2IDEOGRAPH-FAD9;=FE10;0PRESENTATION FORM FOR VERTICAL COMMA;
4IDEOGRAPHIC COMMA;5FULL STOP;4COLON;4SEMICOLON;4EXCLAMATION MARK;4QUESTION MARK;
4LEFT WHITE LENTICULAR BRACKET;4RIGHT WHITE LENTICULAR BRAKCET;4HORIZONTAL ELLIPSIS;=FE30;
4TWO DOT LEADER;4EM DASH;4EN DASH;4LOW LINE;4WAVY LOW LINE;4LEFT PARENTHESIS;4RIGHT PARENTHESIS;
4LEFT CURLY BRACKET;4RIGHT CURLY BRACKET;4LEFT TORTOISE SHELL BRACKET;4RIGHT TORTOISE SHELL BRACKET;
4LEFT BLACK LENTICULAR BRACKET;4RIGHT BLACK LENTICULAR BRACKET;4LEFT DOUBLE ANGLE BRACKET;
4RIGHT DOUBLE ANGLE BRACKET;4LEFT ANGLE BRACKET;4RIGHT ANGLE BRACKET;4LEFT CORNER BRACKET;
4RIGHT CORNER BRACKET;4LEFT WHITE CORNER BRACKET;4RIGHT WHITE CORNER BRACKET;0SESAME DOT;
0WHITE SESAME DOT;0PRESENTATION FORM FOR VERTICAL LEFT SQUARE BRACKET;4RIGHT SQUARE BRACKET;
0DASHED OVERLINE;0CENTRELINE OVERLINE;0WAVY OVERLINE;0DOUBLE WAVY OVERLINE;0DASHED LOW LINE;
0CENTRELINE LOW LINE;0WAVY LOW LINE;0SMALL COMMA;1IDEOGRAPHIC COMMA;1FULL STOP;=FE54;1SEMICOLON;
1COLON;1QUESTION MARK;1EXCLAMATION MARK;1EM DASH;1LEFT PARENTHESIS;1RIGHT PARENTHESIS;
1LEFT CURLY BRACKET;1RIGHT CURLY BRACKET;1LEFT TORTOISE SHELL BRACKET;1RIGHT TORTOISE SHELL BRACKET;
1NUMBER SIGN;1AMPERSAND;1ASTERISK;1PLUS SIGN;1HYPHEN-MINUS;1LESS-THAN SIGN;1GREATER-THAN SIGN;
1EQUALS SIGN;=FE68;1REVERSE SOLIDUS;1DOLLAR SIGN;1PERCENT SIGN;1COMMERCIAL AT;=FF01;
0FULLWIDTH EXCLAMATION MARK;1QUOTATION MARK;1NUMBER SIGN;1DOLLAR SIGN;1PERCENT SIGN;1AMPERSAND;
1APOSTROPHE;1LEFT PARENTHESIS;1RIGHT PARENTHESIS;1ASTERISK;1PLUS SIGN;1COMMA;1HYPHEN-MINUS;
1FULL STOP;1SOLIDUS;1DIGIT ZERO;2ONE;2TWO;2THREE;2FOUR;2FIVE;2SIX;2SEVEN;2EIGHT;2NINE;1COLON;
1SEMICOLON;1LESS-THAN SIGN;1EQUALS SIGN;1GREATER-THAN SIGN;1QUESTION MARK;1COMMERCIAL AT;
1LATIN CAPITAL LETTER A;4B;4C;4D;4E;4F;4G;4H;4I;4J;4K;4L;4M;4N;4O;4P;4Q;4R;4S;4T;4U;4V;4W;4X;4Y;4Z;
1LEFT SQUARE BRACKET;1REVERSE SOLIDUS;1RIGHT SQUARE BRACKET;1CIRCUMFLEX ACCENT;1LOW LINE;
1GRAVE ACCENT;1LATIN SMALL LETTER A;4B;4C;4D;4E;4F;4G;4H;4I;4J;4K;4L;4M;4N;4O;4P;4Q;4R;4S;4T;4U;4V;
4W;4X;4Y;4Z;1LEFT CURLY BRACKET;1VERTICAL LINE;1RIGHT CURLY BRACKET;1TILDE;1LEFT WHITE PARENTHESIS;
1RIGHT WHITE PARENTHESIS;0HALFWIDTH IDEOGRAPHIC FULL STOP;1LEFT CORNER BRACKET;
1RIGHT CORNER BRACKET;1IDEOGRAPHIC COMMA;1KATAKANA MIDDLE DOT;2LETTER WO;3SMALL A;4I;4U;4E;4O;4YA;
4YU;4YO;4TU;1KATAKANA-HIRAGANA PROLONGED SOUND MARK;1KATAKANA LETTER A;3I;3U;3E;3O;3KA;3KI;3KU;3KE;
3KO;3SA;3SI;3SU;3SE;3SO;3TA;3TI;3TU;3TE;3TO;3NA;3NI;3NU;3NE;3NO;3HA;3HI;3HU;3HE;3HO;3MA;3MI;3MU;3ME;
3MO;3YA;3YU;3YO;3RA;3RI;3RU;3RE;3RO;3WA;3N;2VOICED SOUND MARK;2SEMI-VOICED SOUND MARK;
1HANGUL FILLER;2LETTER KIYEOK;3SSANGKIYEOK;3KIYEOK-SIOS;3NIEUN;3NIEUN-CIEUC;3NIEUN-HIEUH;3TIKEUT;
3SSANGTIKEUT;3RIEUL;3RIEUL-KIYEOK;3RIEUL-MIEUM;3RIEUL-PIEUP;3RIEUL-SIOS;3RIEUL-THIEUTH;
3RIEUL-PHIEUPH;3RIEUL-HIEUH;3MIEUM;3PIEUP;3SSANGPIEUP;3PIEUP-SIOS;3SIOS;3SSANGSIOS;3IEUNG;3CIEUC;
3SSANGCIEUC;3CHIEUCH;3KHIEUKH;3THIEUTH;3PHIEUPH;3HIEUH;=FFC2;3A;3AE;3YA;3YAE;3EO;3E;=FFCA;3YEO;3YE;
3O;3WA;3WAE;3OE;=FFD2;3YO;3U;3WEO;3WE;3WI;3YU;=FFDA;3EU;3YI;3I;=FFE0;0FULLWIDTH CENT SIGN;
1POUND SIGN;1NOT SIGN;1MACRON;1BROKEN BAR;1YEN SIGN;1WON SIGN;=FFE8;0HALFWIDTH FORMS LIGHT VERTICAL;
1LEFTWARDS ARROW;1UPWARDS ARROW;1RIGHTWARDS ARROW;1DOWNWARDS ARROW;1BLACK SQUARE;1WHITE CIRCLE;
=16FE0;0TANGUT ITERATION MARK;0NUSHU ITERATION MARK;0OLD CHINESE HOOK MARK;2ITERATION MARK;
0KHITAN SMALL SCRIPT FILLER;=16FF0;0VIETNAMESE ALTERNATE READING MARK CA;4NHAY;=18800;
0TANGUT COMPONENT-001;1COMPONENT-002;1COMPONENT-003;1COMPONENT-004;1COMPONENT-005;1COMPONENT-006;
1COMPONENT-007;1COMPONENT-008;1COMPONENT-009;1COMPONENT-010;1COMPONENT-011;1COMPONENT-012;
1COMPONENT-013;1COMPONENT-014;1COMPONENT-015;1COMPONENT-016;1COMPONENT-017;1COMPONENT-018;
1COMPONENT-019;1COMPONENT-020;1COMPONENT-021;1COMPONENT-022;1COMPONENT-023;1COMPONENT-024;
1COMPONENT-025;1COMPONENT-026;1COMPONENT-027;1COMPONENT-028;1COMPONENT-029;1COMPONENT-030;
1COMPONENT-031;1COMPONENT-032;1COMPONENT-033;1COMPONENT-034;1COMPONENT-035;1COMPONENT-036;
1COMPONENT-037;1COMPONENT-038;1COMPONENT-039;1COMPONENT-040;1COMPONENT-041;1COMPONENT-042;
1COMPONENT-043;1COMPONENT-044;1COMPONENT-045;1COMPONENT-046;1COMPONENT-047;1COMPONENT-048;
1COMPONENT-049;1COMPONENT-050;1COMPONENT-051;1COMPONENT-052;1COMPONENT-053;1COMPONENT-054;
1COMPONENT-055;1COMPONENT-056;1COMPONENT-057;1COMPONENT-058;1COMPONENT-059;1COMPONENT-060;
1COMPONENT-061;1COMPONENT-062;1COMPONENT-063;1COMPONENT-064;1COMPONENT-065;1COMPONENT-066;
1COMPONENT-067;1COMPONENT-068;1COMPONENT-069;1COMPONENT-070;1COMPONENT-071;1COMPONENT-072;
1COMPONENT-073;1COMPONENT-074;1COMPONENT-075;1COMPONENT-076;1COMPONENT-077;1COMPONENT-078;
1COMPONENT-079;1COMPONENT-080;1COMPONENT-081;1COMPONENT-082;1COMPONENT-083;1COMPONENT-084;
1COMPONENT-085;1COMPONENT-086;1COMPONENT-087;1COMPONENT-088;1COMPONENT-089;1COMPONENT-090;
1COMPONENT-091;1COMPONENT-092;1COMPONENT-093;1COMPONENT-094;1COMPONENT-095;1COMPONENT-096;
1COMPONENT-097;1COMPONENT-098;1COMPONENT-099;1COMPONENT-100;1COMPONENT-101;1COMPONENT-102;
1COMPONENT-103;1COMPONENT-104;1COMPONENT-105;1COMPONENT-106;1COMPONENT-107;1COMPONENT-108;
1COMPONENT-109;1COMPONENT-110;1COMPONENT-111;1COMPONENT-112;1COMPONENT-113;1COMPONENT-114;
1COMPONENT-115;1COMPONENT-116;1COMPONENT-117;1COMPONENT-118;1COMPONENT-119;1COMPONENT-120;
1COMPONENT-121;1COMPONENT-122;1COMPONENT-123;1COMPONENT-124;1COMPONENT-125;1COMPONENT-126;
1COMPONENT-127;1COMPONENT-128;1COMPONENT-129;1COMPONENT-130;1COMPONENT-131;1COMPONENT-132;
1COMPONENT-133;1COMPONENT-134;1COMPONENT-135;1COMPONENT-136;1COMPONENT-137;1COMPONENT-138;
1COMPONENT-139;1COMPONENT-140;1COMPONENT-141;1COMPONENT-142;1COMPONENT-143;1COMPONENT-144;
1COMPONENT-145;1COMPONENT-146;1COMPONENT-147;1COMPONENT-148;1COMPONENT-149;1COMPONENT-150;
1COMPONENT-151;1COMPONENT-152;1COMPONENT-153;1COMPONENT-154;1COMPONENT-155;1COMPONENT-156;
1COMPONENT-157;1COMPONENT-158;1COMPONENT-159;1COMPONENT-160;1COMPONENT-161;1COMPONENT-162;
1COMPONENT-163;1COMPONENT-164;1COMPONENT-165;1COMPONENT-166;1COMPONENT-167;1COMPONENT-168;
1COMPONENT-169;1COMPONENT-170;1COMPONENT-171;1COMPONENT-172;1COMPONENT-173;1COMPONENT-174;
1COMPONENT-175;1COMPONENT-176;1COMPONENT-177;1COMPONENT-178;1COMPONENT-179;1COMPONENT-180;
1COMPONENT-181;1COMPONENT-182;1COMPONENT-183;1COMPONENT-184;1COMPONENT-185;1COMPONENT-186;
1COMPONENT-187;1COMPONENT-188;1COMPONENT-189;1COMPONENT-190;1COMPONENT-191;1COMPONENT-192;
1COMPONENT-193;1COMPONENT-194;1COMPONENT-195;1COMPONENT-196;1COMPONENT-197;1COMPONENT-198;
1COMPONENT-199;1COMPONENT-200;1COMPONENT-201;1COMPONENT-202;1COMPONENT-203;1COMPONENT-204;
1COMPONENT-205;1COMPONENT-206;1COMPONENT-207;1COMPONENT-208;1COMPONENT-209;1COMPONENT-210;
1COMPONENT-211;1COMPONENT-212;1COMPONENT-213;1COMPONENT-214;1COMPONENT-215;1COMPONENT-216;
1COMPONENT-217;1COMPONENT-218;1COMPONENT-219;1COMPONENT-220;1COMPONENT-221;1COMPONENT-222;
1COMPONENT-223;1COMPONENT-224;1COMPONENT-225;1COMPONENT-226;1COMPONENT-227;1COMPONENT-228;
1COMPONENT-229;1COMPONENT-230;1COMPONENT-231;1COMPONENT-232;1COMPONENT-233;1COMPONENT-234;
1COMPONENT-235;1COMPONENT-236;1COMPONENT-237;1COMPONENT-238;1COMPONENT-239;1COMPONENT-240;
1COMPONENT-241;1COMPONENT-242;1COMPONENT-243;1COMPONENT-244;1COMPONENT-245;1COMPONENT-246;
1COMPONENT-247;1COMPONENT-248;1COMPONENT-249;1COMPONENT-250;1COMPONENT-251;1COMPONENT-252;
1COMPONENT-253;1COMPONENT-254;1COMPONENT-255;1COMPONENT-256;1COMPONENT-257;1COMPONENT-258;
1COMPONENT-259;1COMPONENT-260;1COMPONENT-261;1COMPONENT-262;1COMPONENT-263;1COMPONENT-264;
1COMPONENT-265;1COMPONENT-266;1COMPONENT-267;1COMPONENT-268;1COMPONENT-269;1COMPONENT-270;
1COMPONENT-271;1COMPONENT-272;1COMPONENT-273;1COMPONENT-274;1COMPONENT-275;1COMPONENT-276;
1COMPONENT-277;1COMPONENT-278;1COMPONENT-279;1COMPONENT-280;1COMPONENT-281;1COMPONENT-282;
1COMPONENT-283;1COMPONENT-284;1COMPONENT-285;1COMPONENT-286;1COMPONENT-287;1COMPONENT-288;
1COMPONENT-289;1COMPONENT-290;1COMPONENT-291;1COMPONENT-292;1COMPONENT-293;1COMPONENT-294;
1COMPONENT-295;1COMPONENT-296;1COMPONENT-297;1COMPONENT-298;1COMPONENT-299;1COMPONENT-300;
1COMPONENT-301;1COMPONENT-302;1COMPONENT-303;1COMPONENT-304;1COMPONENT-305;1COMPONENT-306;
1COMPONENT-307;1COMPONENT-308;1COMPONENT-309;1COMPONENT-310;1COMPONENT-311;1COMPONENT-312;
1COMPONENT-313;1COMPONENT-314;1COMPONENT-315;1COMPONENT-316;1COMPONENT-317;1COMPONENT-318;
1COMPONENT-319;1COMPONENT-320;1COMPONENT-321;1COMPONENT-322;1COMPONENT-323;1COMPONENT-324;
1COMPONENT-325;1COMPONENT-326;1COMPONENT-327;1COMPONENT-328;1COMPONENT-329;1COMPONENT-330;
1COMPONENT-331;1COMPONENT-332;1COMPONENT-333;1COMPONENT-334;1COMPONENT-335;1COMPONENT-336;
1COMPONENT-337;1COMPONENT-338;1COMPONENT-339;1COMPONENT-340;1COMPONENT-341;1COMPONENT-342;
1COMPONENT-343;1COMPONENT-344;1COMPONENT-345;1COMPONENT-346;1COMPONENT-347;1COMPONENT-348;
1COMPONENT-349;1COMPONENT-350;1COMPONENT-351;1COMPONENT-352;1COMPONENT-353;1COMPONENT-354;
1COMPONENT-355;1COMPONENT-356;1COMPONENT-357;1COMPONENT-358;1COMPONENT-359;1COMPONENT-360;
1COMPONENT-361;1COMPONENT-362;1COMPONENT-363;1COMPONENT-364;1COMPONENT-365;1COMPONENT-366;
1COMPONENT-367;1COMPONENT-368;1COMPONENT-369;1COMPONENT-370;1COMPONENT-371;1COMPONENT-372;
1COMPONENT-373;1COMPONENT-374;1COMPONENT-375;1COMPONENT-376;1COMPONENT-377;1COMPONENT-378;
1COMPONENT-379;1COMPONENT-380;1COMPONENT-381;1COMPONENT-382;1COMPONENT-383;1COMPONENT-384;
1COMPONENT-385;1COMPONENT-386;1COMPONENT-387;1COMPONENT-388;1COMPONENT-389;1COMPONENT-390;
1COMPONENT-391;1COMPONENT-392;1COMPONENT-393;1COMPONENT-394;1COMPONENT-395;1COMPONENT-396;
1COMPONENT-397;1COMPONENT-398;1COMPONENT-399;1COMPONENT-400;1COMPONENT-401;1COMPONENT-402;
1COMPONENT-403;1COMPONENT-404;1COMPONENT-405;1COMPONENT-406;1COMPONENT-407;1COMPONENT-408;
1COMPONENT-409;1COMPONENT-410;1COMPONENT-411;1COMPONENT-412;1COMPONENT-413;1COMPONENT-414;
1COMPONENT-415;1COMPONENT-416;1COMPONENT-417;1COMPONENT-418;1COMPONENT-419;1COMPONENT-420;
1COMPONENT-421;1COMPONENT-422;1COMPONENT-423;1COMPONENT-424;1COMPONENT-425;1COMPONENT-426;
1COMPONENT-427;1COMPONENT-428;1COMPONENT-429;1COMPONENT-430;1COMPONENT-431;1COMPONENT-432;
1COMPONENT-433;1COMPONENT-434;1COMPONENT-435;1COMPONENT-436;1COMPONENT-437;1COMPONENT-438;
1COMPONENT-439;1COMPONENT-440;1COMPONENT-441;1COMPONENT-442;1COMPONENT-443;1COMPONENT-444;
1COMPONENT-445;1COMPONENT-446;1COMPONENT-447;1COMPONENT-448;1COMPONENT-449;1COMPONENT-450;
1COMPONENT-451;1COMPONENT-452;1COMPONENT-453;1COMPONENT-454;1COMPONENT-455;1COMPONENT-456;
1COMPONENT-457;1COMPONENT-458;1COMPONENT-459;1COMPONENT-460;1COMPONENT-461;1COMPONENT-462;
1COMPONENT-463;1COMPONENT-464;1COMPONENT-465;1COMPONENT-466;1COMPONENT-467;1COMPONENT-468;
1COMPONENT-469;1COMPONENT-470;1COMPONENT-471;1COMPONENT-472;1COMPONENT-473;1COMPONENT-474;
1COMPONENT-475;1COMPONENT-476;1COMPONENT-477;1COMPONENT-478;1COMPONENT-479;1COMPONENT-480;
1COMPONENT-481;1COMPONENT-482;1COMPONENT-483;1COMPONENT-484;1COMPONENT-485;1COMPONENT-486;
1COMPONENT-487;1COMPONENT-488;1COMPONENT-489;1COMPONENT-490;1COMPONENT-491;1COMPONENT-492;
1COMPONENT-493;1COMPONENT-494;1COMPONENT-495;1COMPONENT-496;1COMPONENT-497;1COMPONENT-498;
1COMPONENT-499;1COMPONENT-500;1COMPONENT-501;1COMPONENT-502;1COMPONENT-503;1COMPONENT-504;
1COMPONENT-505;1COMPONENT-506;1COMPONENT-507;1COMPONENT-508;1COMPONENT-509;1COMPONENT-510;
1COMPONENT-511;1COMPONENT-512;1COMPONENT-513;1COMPONENT-514;1COMPONENT-515;1COMPONENT-516;
1COMPONENT-517;1COMPONENT-518;1COMPONENT-519;1COMPONENT-520;1COMPONENT-521;1COMPONENT-522;
1COMPONENT-523;1COMPONENT-524;1COMPONENT-525;1COMPONENT-526;1COMPONENT-527;1COMPONENT-528;
1COMPONENT-529;1COMPONENT-530;1COMPONENT-531;1COMPONENT-532;1COMPONENT-533;1COMPONENT-534;
1COMPONENT-535;1COMPONENT-536;1COMPONENT-537;1COMPONENT-538;1COMPONENT-539;1COMPONENT-540;
1COMPONENT-541;1COMPONENT-542;1COMPONENT-543;1COMPONENT-544;1COMPONENT-545;1COMPONENT-546;
1COMPONENT-547;1COMPONENT-548;1COMPONENT-549;1COMPONENT-550;1COMPONENT-551;1COMPONENT-552;
1COMPONENT-553;1COMPONENT-554;1COMPONENT-555;1COMPONENT-556;1COMPONENT-557;1COMPONENT-558;
1COMPONENT-559;1COMPONENT-560;1COMPONENT-561;1COMPONENT-562;1COMPONENT-563;1COMPONENT-564;
1COMPONENT-565;1COMPONENT-566;1COMPONENT-567;1COMPONENT-568;1COMPONENT-569;1COMPONENT-570;
1COMPONENT-571;1COMPONENT-572;1COMPONENT-573;1COMPONENT-574;1COMPONENT-575;1COMPONENT-576;
1COMPONENT-577;1COMPONENT-578;1COMPONENT-579;1COMPONENT-580;1COMPONENT-581;1COMPONENT-582;
1COMPONENT-583;1COMPONENT-584;1COMPONENT-585;1COMPONENT-586;1COMPONENT-587;1COMPONENT-588;
1COMPONENT-589;1COMPONENT-590;1COMPONENT-591;1COMPONENT-592;1COMPONENT-593;1COMPONENT-594;
1COMPONENT-595;1COMPONENT-596;1COMPONENT-597;1COMPONENT-598;1COMPONENT-599;1COMPONENT-600;
1COMPONENT-601;1COMPONENT-602;1COMPONENT-603;1COMPONENT-604;1COMPONENT-605;1COMPONENT-606;
1COMPONENT-607;1COMPONENT-608;1COMPONENT-609;1COMPONENT-610;1COMPONENT-611;1COMPONENT-612;
1COMPONENT-613;1COMPONENT-614;1COMPONENT-615;1COMPONENT-616;1COMPONENT-617;1COMPONENT-618;
1COMPONENT-619;1COMPONENT-620;1COMPONENT-621;1COMPONENT-622;1COMPONENT-623;1COMPONENT-624;
1COMPONENT-625;1COMPONENT-626;1COMPONENT-627;1COMPONENT-628;1COMPONENT-629;1COMPONENT-630;
1COMPONENT-631;1COMPONENT-632;1COMPONENT-633;1COMPONENT-634;1COMPONENT-635;1COMPONENT-636;
1COMPONENT-637;1COMPONENT-638;1COMPONENT-639;1COMPONENT-640;1COMPONENT-641;1COMPONENT-642;
1COMPONENT-643;1COMPONENT-644;1COMPONENT-645;1COMPONENT-646;1COMPONENT-647;1COMPONENT-648;
1COMPONENT-649;1COMPONENT-650;1COMPONENT-651;1COMPONENT-652;1COMPONENT-653;1COMPONENT-654;
1COMPONENT-655;1COMPONENT-656;1COMPONENT-657;1COMPONENT-658;1COMPONENT-659;1COMPONENT-660;
1COMPONENT-661;1COMPONENT-662;1COMPONENT-663;1COMPONENT-664;1COMPONENT-665;1COMPONENT-666;
1COMPONENT-667;1COMPONENT-668;1COMPONENT-669;1COMPONENT-670;1COMPONENT-671;1COMPONENT-672;
1COMPONENT-673;1COMPONENT-674;1COMPONENT-675;1COMPONENT-676;1COMPONENT-677;1COMPONENT-678;
1COMPONENT-679;1COMPONENT-680;1COMPONENT-681;1COMPONENT-682;1COMPONENT-683;1COMPONENT-684;
1COMPONENT-685;1COMPONENT-686;1COMPONENT-687;1COMPONENT-688;1COMPONENT-689;1COMPONENT-690;
1COMPONENT-691;1COMPONENT-692;1COMPONENT-693;1COMPONENT-694;1COMPONENT-695;1COMPONENT-696;
1COMPONENT-697;1COMPONENT-698;1COMPONENT-699;1COMPONENT-700;1COMPONENT-701;1COMPONENT-702;
1COMPONENT-703;1COMPONENT-704;1COMPONENT-705;1COMPONENT-706;1COMPONENT-707;1COMPONENT-708;
1COMPONENT-709;1COMPONENT-710;1COMPONENT-711;1COMPONENT-712;1COMPONENT-713;1COMPONENT-714;
1COMPONENT-715;1COMPONENT-716;1COMPONENT-717;1COMPONENT-718;1COMPONENT-719;1COMPONENT-720;
1COMPONENT-721;1COMPONENT-722;1COMPONENT-723;1COMPONENT-724;1COMPONENT-725;1COMPONENT-726;
1COMPONENT-727;1COMPONENT-728;1COMPONENT-729;1COMPONENT-730;1COMPONENT-731;1COMPONENT-732;
1COMPONENT-733;1COMPONENT-734;1COMPONENT-735;1COMPONENT-736;1COMPONENT-737;1COMPONENT-738;
1COMPONENT-739;1COMPONENT-740;1COMPONENT-741;1COMPONENT-742;1COMPONENT-743;1COMPONENT-744;
1COMPONENT-745;1COMPONENT-746;1COMPONENT-747;1COMPONENT-748;1COMPONENT-749;1COMPONENT-750;
1COMPONENT-751;1COMPONENT-752;1COMPONENT-753;1COMPONENT-754;1COMPONENT-755;1COMPONENT-756;
1COMPONENT-757;1COMPONENT-758;1COMPONENT-759;1COMPONENT-760;1COMPONENT-761;1COMPONENT-762;
1COMPONENT-763;1COMPONENT-764;1COMPONENT-765;1COMPONENT-766;1COMPONENT-767;1COMPONENT-768;
0KHITAN SMALL SCRIPT CHARACTER-18B00;3CHARACTER-18B01;3CHARACTER-18B02;3CHARACTER-18B03;
3CHARACTER-18B04;3CHARACTER-18B05;3CHARACTER-18B06;3CHARACTER-18B07;3CHARACTER-18B08;
3CHARACTER-18B09;3CHARACTER-18B0A;3CHARACTER-18B0B;3CHARACTER-18B0C;3CHARACTER-18B0D;
3CHARACTER-18B0E;3CHARACTER-18B0F;3CHARACTER-18B10;3CHARACTER-18B11;3CHARACTER-18B12;
3CHARACTER-18B13;3CHARACTER-18B14;3CHARACTER-18B15;3CHARACTER-18B16;3CHARACTER-18B17;
3CHARACTER-18B18;3CHARACTER-18B19;3CHARACTER-18B1A;3CHARACTER-18B1B;3CHARACTER-18B1C;
3CHARACTER-18B1D;3CHARACTER-18B1E;3CHARACTER-18B1F;3CHARACTER-18B20;3CHARACTER-18B21;
3CHARACTER-18B22;3CHARACTER-18B23;3CHARACTER-18B24;3CHARACTER-18B25;3CHARACTER-18B26;
3CHARACTER-18B27;3CHARACTER-18B28;3CHARACTER-18B29;3CHARACTER-18B2A;3CHARACTER-18B2B;
3CHARACTER-18B2C;3CHARACTER-18B2D;3CHARACTER-18B2E;3CHARACTER-18B2F;3CHARACTER-18B30;
3CHARACTER-18B31;3CHARACTER-18B32;3CHARACTER-18B33;3CHARACTER-18B34;3CHARACTER-18B35;
3CHARACTER-18B36;3CHARACTER-18B37;3CHARACTER-18B38;3CHARACTER-18B39;3CHARACTER-18B3A;
3CHARACTER-18B3B;3CHARACTER-18B3C;3CHARACTER-18B3D;3CHARACTER-18B3E;3CHARACTER-18B3F;
3CHARACTER-18B40;3CHARACTER-18B41;3CHARACTER-18B42;3CHARACTER-18B43;3CHARACTER-18B44;
3CHARACTER-18B45;3CHARACTER-18B46;3CHARACTER-18B47;3CHARACTER-18B48;3CHARACTER-18B49;
3CHARACTER-18B4A;3CHARACTER-18B4B;3CHARACTER-18B4C;3CHARACTER-18B4D;3CHARACTER-18B4E;
3CHARACTER-18B4F;3CHARACTER-18B50;3CHARACTER-18B51;3CHARACTER-18B52;3CHARACTER-18B53;
3CHARACTER-18B54;3CHARACTER-18B55;3CHARACTER-18B56;3CHARACTER-18B57;3CHARACTER-18B58;
3CHARACTER-18B59;3CHARACTER-18B5A;3CHARACTER-18B5B;3CHARACTER-18B5C;3CHARACTER-18B5D;
3CHARACTER-18B5E;3CHARACTER-18B5F;3CHARACTER-18B60;3CHARACTER-18B61;3CHARACTER-18B62;
3CHARACTER-18B63;3CHARACTER-18B64;3CHARACTER-18B65;3CHARACTER-18B66;3CHARACTER-18B67;
3CHARACTER-18B68;3CHARACTER-18B69;3CHARACTER-18B6A;3CHARACTER-18B6B;3CHARACTER-18B6C;
3CHARACTER-18B6D;3CHARACTER-18B6E;3CHARACTER-18B6F;3CHARACTER-18B70;3CHARACTER-18B71;
3CHARACTER-18B72;3CHARACTER-18B73;3CHARACTER-18B74;3CHARACTER-18B75;3CHARACTER-18B76;
3CHARACTER-18B77;3CHARACTER-18B78;3CHARACTER-18B79;3CHARACTER-18B7A;3CHARACTER-18B7B;
3CHARACTER-18B7C;3CHARACTER-18B7D;3CHARACTER-18B7E;3CHARACTER-18B7F;3CHARACTER-18B80;
3CHARACTER-18B81;3CHARACTER-18B82;3CHARACTER-18B83;3CHARACTER-18B84;3CHARACTER-18B85;
3CHARACTER-18B86;3CHARACTER-18B87;3CHARACTER-18B88;3CHARACTER-18B89;3CHARACTER-18B8A;
3CHARACTER-18B8B;3CHARACTER-18B8C;3CHARACTER-18B8D;3CHARACTER-18B8E;3CHARACTER-18B8F;
3CHARACTER-18B90;3CHARACTER-18B91;3CHARACTER-18B92;3CHARACTER-18B93;3CHARACTER-18B94;
3CHARACTER-18B95;3CHARACTER-18B96;3CHARACTER-18B97;3CHARACTER-18B98;3CHARACTER-18B99;
3CHARACTER-18B9A;3CHARACTER-18B9B;3CHARACTER-18B9C;3CHARACTER-18B9D;3CHARACTER-18B9E;
3CHARACTER-18B9F;3CHARACTER-18BA0;3CHARACTER-18BA1;3CHARACTER-18BA2;3CHARACTER-18BA3;
3CHARACTER-18BA4;3CHARACTER-18BA5;3CHARACTER-18BA6;3CHARACTER-18BA7;3CHARACTER-18BA8;
3CHARACTER-18BA9;3CHARACTER-18BAA;3CHARACTER-18BAB;3CHARACTER-18BAC;3CHARACTER-18BAD;
3CHARACTER-18BAE;3CHARACTER-18BAF;3CHARACTER-18BB0;3CHARACTER-18BB1;3CHARACTER-18BB2;
3CHARACTER-18BB3;3CHARACTER-18BB4;3CHARACTER-18BB5;3CHARACTER-18BB6;3CHARACTER-18BB7;
3CHARACTER-18BB8;3CHARACTER-18BB9;3CHARACTER-18BBA;3CHARACTER-18BBB;3CHARACTER-18BBC;
3CHARACTER-18BBD;3CHARACTER-18BBE;3CHARACTER-18BBF;3CHARACTER-18BC0;3CHARACTER-18BC1;
3CHARACTER-18BC2;3CHARACTER-18BC3;3CHARACTER-18BC4;3CHARACTER-18BC5;3CHARACTER-18BC6;
3CHARACTER-18BC7;3CHARACTER-18BC8;3CHARACTER-18BC9;3CHARACTER-18BCA;3CHARACTER-18BCB;
3CHARACTER-18BCC;3CHARACTER-18BCD;3CHARACTER-18BCE;3CHARACTER-18BCF;3CHARACTER-18BD0;
3CHARACTER-18BD1;3CHARACTER-18BD2;3CHARACTER-18BD3;3CHARACTER-18BD4;3CHARACTER-18BD5;
3CHARACTER-18BD6;3CHARACTER-18BD7;3CHARACTER-18BD8;3CHARACTER-18BD9;3CHARACTER-18BDA;
3CHARACTER-18BDB;3CHARACTER-18BDC;3CHARACTER-18BDD;3CHARACTER-18BDE;3CHARACTER-18BDF;
3CHARACTER-18BE0;3CHARACTER-18BE1;3CHARACTER-18BE2;3CHARACTER-18BE3;3CHARACTER-18BE4;
3CHARACTER-18BE5;3CHARACTER-18BE6;3CHARACTER-18BE7;3CHARACTER-18BE8;3CHARACTER-18BE9;
3CHARACTER-18BEA;3CHARACTER-18BEB;3CHARACTER-18BEC;3CHARACTER-18BED;3CHARACTER-18BEE;
3CHARACTER-18BEF;3CHARACTER-18BF0;3CHARACTER-18BF1;3CHARACTER-18BF2;3CHARACTER-18BF3;
3CHARACTER-18BF4;3CHARACTER-18BF5;3CHARACTER-18BF6;3CHARACTER-18BF7;3CHARACTER-18BF8;
3CHARACTER-18BF9;3CHARACTER-18BFA;3CHARACTER-18BFB;3CHARACTER-18BFC;3CHARACTER-18BFD;
3CHARACTER-18BFE;3CHARACTER-18BFF;3CHARACTER-18C00;3CHARACTER-18C01;3CHARACTER-18C02;
3CHARACTER-18C03;3CHARACTER-18C04;3CHARACTER-18C05;3CHARACTER-18C06;3CHARACTER-18C07;
3CHARACTER-18C08;3CHARACTER-18C09;3CHARACTER-18C0A;3CHARACTER-18C0B;3CHARACTER-18C0C;
3CHARACTER-18C0D;3CHARACTER-18C0E;3CHARACTER-18C0F;3CHARACTER-18C10;3CHARACTER-18C11;
3CHARACTER-18C12;3CHARACTER-18C13;3CHARACTER-18C14;3CHARACTER-18C15;3CHARACTER-18C16;
3CHARACTER-18C17;3CHARACTER-18C18;3CHARACTER-18C19;3CHARACTER-18C1A;3CHARACTER-18C1B;
3CHARACTER-18C1C;3CHARACTER-18C1D;3CHARACTER-18C1E;3CHARACTER-18C1F;3CHARACTER-18C20;
3CHARACTER-18C21;3CHARACTER-18C22;3CHARACTER-18C23;3CHARACTER-18C24;3CHARACTER-18C25;
3CHARACTER-18C26;3CHARACTER-18C27;3CHARACTER-18C28;3CHARACTER-18C29;3CHARACTER-18C2A;
3CHARACTER-18C2B;3CHARACTER-18C2C;3CHARACTER-18C2D;3CHARACTER-18C2E;3CHARACTER-18C2F;
3CHARACTER-18C30;3CHARACTER-18C31;3CHARACTER-18C32;3CHARACTER-18C33;3CHARACTER-18C34;
3CHARACTER-18C35;3CHARACTER-18C36;3CHARACTER-18C37;3CHARACTER-18C38;3CHARACTER-18C39;
3CHARACTER-18C3A;3CHARACTER-18C3B;3CHARACTER-18C3C;3CHARACTER-18C3D;3CHARACTER-18C3E;
3CHARACTER-18C3F;3CHARACTER-18C40;3CHARACTER-18C41;3CHARACTER-18C42;3CHARACTER-18C43;
3CHARACTER-18C44;3CHARACTER-18C45;3CHARACTER-18C46;3CHARACTER-18C47;3CHARACTER-18C48;
3CHARACTER-18C49;3CHARACTER-18C4A;3CHARACTER-18C4B;3CHARACTER-18C4C;3CHARACTER-18C4D;
3CHARACTER-18C4E;3CHARACTER-18C4F;3CHARACTER-18C50;3CHARACTER-18C51;3CHARACTER-18C52;
3CHARACTER-18C53;3CHARACTER-18C54;3CHARACTER-18C55;3CHARACTER-18C56;3CHARACTER-18C57;
3CHARACTER-18C58;3CHARACTER-18C59;3CHARACTER-18C5A;3CHARACTER-18C5B;3CHARACTER-18C5C;
3CHARACTER-18C5D;3CHARACTER-18C5E;3CHARACTER-18C5F;3CHARACTER-18C60;3CHARACTER-18C61;
3CHARACTER-18C62;3CHARACTER-18C63;3CHARACTER-18C64;3CHARACTER-18C65;3CHARACTER-18C66;
3CHARACTER-18C67;3CHARACTER-18C68;3CHARACTER-18C69;3CHARACTER-18C6A;3CHARACTER-18C6B;
3CHARACTER-18C6C;3CHARACTER-18C6D;3CHARACTER-18C6E;3CHARACTER-18C6F;3CHARACTER-18C70;
3CHARACTER-18C71;3CHARACTER-18C72;3CHARACTER-18C73;3CHARACTER-18C74;3CHARACTER-18C75;
3CHARACTER-18C76;3CHARACTER-18C77;3CHARACTER-18C78;3CHARACTER-18C79;3CHARACTER-18C7A;
3CHARACTER-18C7B;3CHARACTER-18C7C;3CHARACTER-18C7D;3CHARACTER-18C7E;3CHARACTER-18C7F;
3CHARACTER-18C80;3CHARACTER-18C81;3CHARACTER-18C82;3CHARACTER-18C83;3CHARACTER-18C84;
3CHARACTER-18C85;3CHARACTER-18C86;3CHARACTER-18C87;3CHARACTER-18C88;3CHARACTER-18C89;
3CHARACTER-18C8A;3CHARACTER-18C8B;3CHARACTER-18C8C;3CHARACTER-18C8D;3CHARACTER-18C8E;
3CHARACTER-18C8F;3CHARACTER-18C90;3CHARACTER-18C91;3CHARACTER-18C92;3CHARACTER-18C93;
3CHARACTER-18C94;3CHARACTER-18C95;3CHARACTER-18C96;3CHARACTER-18C97;3CHARACTER-18C98;
3CHARACTER-18C99;3CHARACTER-18C9A;3CHARACTER-18C9B;3CHARACTER-18C9C;3CHARACTER-18C9D;
3CHARACTER-18C9E;3CHARACTER-18C9F;3CHARACTER-18CA0;3CHARACTER-18CA1;3CHARACTER-18CA2;
3CHARACTER-18CA3;3CHARACTER-18CA4;3CHARACTER-18CA5;3CHARACTER-18CA6;3CHARACTER-18CA7;
3CHARACTER-18CA8;3CHARACTER-18CA9;3CHARACTER-18CAA;3CHARACTER-18CAB;3CHARACTER-18CAC;
3CHARACTER-18CAD;3CHARACTER-18CAE;3CHARACTER-18CAF;3CHARACTER-18CB0;3CHARACTER-18CB1;
3CHARACTER-18CB2;3CHARACTER-18CB3;3CHARACTER-18CB4;3CHARACTER-18CB5;3CHARACTER-18CB6;
3CHARACTER-18CB7;3CHARACTER-18CB8;3CHARACTER-18CB9;3CHARACTER-18CBA;3CHARACTER-18CBB;
3CHARACTER-18CBC;3CHARACTER-18CBD;3CHARACTER-18CBE;3CHARACTER-18CBF;3CHARACTER-18CC0;
3CHARACTER-18CC1;3CHARACTER-18CC2;3CHARACTER-18CC3;3CHARACTER-18CC4;3CHARACTER-18CC5;
3CHARACTER-18CC6;3CHARACTER-18CC7;3CHARACTER-18CC8;3CHARACTER-18CC9;3CHARACTER-18CCA;
3CHARACTER-18CCB;3CHARACTER-18CCC;3CHARACTER-18CCD;3CHARACTER-18CCE;3CHARACTER-18CCF;
3CHARACTER-18CD0;3CHARACTER-18CD1;3CHARACTER-18CD2;3CHARACTER-18CD3;3CHARACTER-18CD4;
3CHARACTER-18CD5;=1AFF0;0KATAKANA LETTER MINNAN TONE-2;3TONE-3;3TONE-4;3TONE-5;=1AFF5;3TONE-7;
3TONE-8;3NASALIZED TONE-1;4TONE-2;4TONE-3;4TONE-4;4TONE-5;=1AFFD;4TONE-7;4TONE-8;=1B000;2ARCHAIC E;
0HIRAGANA LETTER ARCHAIC YE;0HENTAIGANA LETTER A-1;2A-2;2A-3;2A-WO;2I-1;2I-2;2I-3;2I-4;2U-1;2U-2;
2U-3;2U-4;2U-5;2E-2;2E-3;2E-4;2E-5;2E-6;2O-1;2O-2;2O-3;2KA-1;2KA-2;2KA-3;2KA-4;2KA-5;2KA-6;2KA-7;
2KA-8;2KA-9;2KA-10;2KA-11;2KA-KE;2KI-1;2KI-2;2KI-3;2KI-4;2KI-5;2KI-6;2KI-7;2KI-8;2KU-1;2KU-2;2KU-3;
2KU-4;2KU-5;2KU-6;2KU-7;2KE-1;2KE-2;2KE-3;2KE-4;2KE-5;2KE-6;2KO-1;2KO-2;2KO-3;2KO-KI;2SA-1;2SA-2;
2SA-3;2SA-4;2SA-5;2SA-6;2SA-7;2SA-8;2SI-1;2SI-2;2SI-3;2SI-4;2SI-5;2SI-6;2SU-1;2SU-2;2SU-3;2SU-4;
2SU-5;2SU-6;2SU-7;2SU-8;2SE-1;2SE-2;2SE-3;2SE-4;2SE-5;2SO-1;2SO-2;2SO-3;2SO-4;2SO-5;2SO-6;2SO-7;
2TA-1;2TA-2;2TA-3;2TA-4;2TI-1;2TI-2;2TI-3;2TI-4;2TI-5;2TI-6;2TI-7;2TU-1;2TU-2;2TU-3;2TU-4;2TU-TO;
2TE-1;2TE-2;2TE-3;2TE-4;2TE-5;2TE-6;2TE-7;2TE-8;2TE-9;2TO-1;2TO-2;2TO-3;2TO-4;2TO-5;2TO-6;2TO-RA;
2NA-1;2NA-2;2NA-3;2NA-4;2NA-5;2NA-6;2NA-7;2NA-8;2NA-9;2NI-1;2NI-2;2NI-3;2NI-4;2NI-5;2NI-6;2NI-7;
2NI-TE;2NU-1;2NU-2;2NU-3;2NE-1;2NE-2;2NE-3;2NE-4;2NE-5;2NE-6;2NE-KO;2NO-1;2NO-2;2NO-3;2NO-4;2NO-5;
2HA-1;2HA-2;2HA-3;2HA-4;2HA-5;2HA-6;2HA-7;2HA-8;2HA-9;2HA-10;2HA-11;2HI-1;2HI-2;2HI-3;2HI-4;2HI-5;
2HI-6;2HI-7;2HU-1;2HU-2;2HU-3;2HE-1;2HE-2;2HE-3;2HE-4;2HE-5;2HE-6;2HE-7;2HO-1;2HO-2;2HO-3;2HO-4;
2HO-5;2HO-6;2HO-7;2HO-8;2MA-1;2MA-2;2MA-3;2MA-4;2MA-5;2MA-6;2MA-7;2MI-1;2MI-2;2MI-3;2MI-4;2MI-5;
2MI-6;2MI-7;2MU-1;2MU-2;2MU-3;2MU-4;2ME-1;2ME-2;2ME-MA;2MO-1;2MO-2;2MO-3;2MO-4;2MO-5;2MO-6;2YA-1;
2YA-2;2YA-3;2YA-4;2YA-5;2YA-YO;2YU-1;2YU-2;2YU-3;2YU-4;2YO-1;2YO-2;2YO-3;2YO-4;2YO-5;2YO-6;2RA-1;
2RA-2;2RA-3;2RA-4;2RI-1;2RI-2;2RI-3;2RI-4;2RI-5;2RI-6;2RI-7;2RU-1;2RU-2;2RU-3;2RU-4;2RU-5;2RU-6;
2RE-1;2RE-2;2RE-3;2RE-4;2RO-1;2RO-2;2RO-3;2RO-4;2RO-5;2RO-6;2WA-1;2WA-2;2WA-3;2WA-4;2WA-5;2WI-1;
2WI-2;2WI-3;2WI-4;2WI-5;2WE-1;2WE-2;2WE-3;2WE-4;2WO-1;2WO-2;2WO-3;2WO-4;2WO-5;2WO-6;2WO-7;
2N-MU-MO-1;2N-MU-MO-2;0HIRAGANA LETTER ARCHAIC WU;0KATAKANA LETTER ARCHAIC YI;3YE;3WU;=1B150;
0HIRAGANA LETTER SMALL WI;3WE;3WO;=1B164;0KATAKANA LETTER SMALL WI;3WE;3WO;3N;=1B170;
0NUSHU CHARACTER-1B170;1CHARACTER-1B171;1CHARACTER-1B172;1CHARACTER-1B173;1CHARACTER-1B174;
1CHARACTER-1B175;1CHARACTER-1B176;1CHARACTER-1B177;1CHARACTER-1B178;1CHARACTER-1B179;
1CHARACTER-1B17A;1CHARACTER-1B17B;1CHARACTER-1B17C;1CHARACTER-1B17D;1CHARACTER-1B17E;
1CHARACTER-1B17F;1CHARACTER-1B180;1CHARACTER-1B181;1CHARACTER-1B182;1CHARACTER-1B183;
1CHARACTER-1B184;1CHARACTER-1B185;1CHARACTER-1B186;1CHARACTER-1B187;1CHARACTER-1B188;
1CHARACTER-1B189;1CHARACTER-1B18A;1CHARACTER-1B18B;1CHARACTER-1B18C;1CHARACTER-1B18D;
1CHARACTER-1B18E;1CHARACTER-1B18F;1CHARACTER-1B190;1CHARACTER-1B191;1CHARACTER-1B192;
1CHARACTER-1B193;1CHARACTER-1B194;1CHARACTER-1B195;1CHARACTER-1B196;1CHARACTER-1B197;
1CHARACTER-1B198;1CHARACTER-1B199;1CHARACTER-1B19A;1CHARACTER-1B19B;1CHARACTER-1B19C;
1CHARACTER-1B19D;1CHARACTER-1B19E;1CHARACTER-1B19F;1CHARACTER-1B1A0;1CHARACTER-1B1A1;
1CHARACTER-1B1A2;1CHARACTER-1B1A3;1CHARACTER-1B1A4;1CHARACTER-1B1A5;1CHARACTER-1B1A6;
1CHARACTER-1B1A7;1CHARACTER-1B1A8;1CHARACTER-1B1A9;1CHARACTER-1B1AA;1CHARACTER-1B1AB;
1CHARACTER-1B1AC;1CHARACTER-1B1AD;1CHARACTER-1B1AE;1CHARACTER-1B1AF;1CHARACTER-1B1B0;
1CHARACTER-1B1B1;1CHARACTER-1B1B2;1CHARACTER-1B1B3;1CHARACTER-1B1B4;1CHARACTER-1B1B5;
1CHARACTER-1B1B6;1CHARACTER-1B1B7;1CHARACTER-1B1B8;1CHARACTER-1B1B9;1CHARACTER-1B1BA;
1CHARACTER-1B1BB;1CHARACTER-1B1BC;1CHARACTER-1B1BD;1CHARACTER-1B1BE;1CHARACTER-1B1BF;
1CHARACTER-1B1C0;1CHARACTER-1B1C1;1CHARACTER-1B1C2;1CHARACTER-1B1C3;1CHARACTER-1B1C4;
1CHARACTER-1B1C5;1CHARACTER-1B1C6;1CHARACTER-1B1C7;1CHARACTER-1B1C8;1CHARACTER-1B1C9;
1CHARACTER-1B1CA;1CHARACTER-1B1CB;1CHARACTER-1B1CC;1CHARACTER-1B1CD;1CHARACTER-1B1CE;
1CHARACTER-1B1CF;1CHARACTER-1B1D0;1CHARACTER-1B1D1;1CHARACTER-1B1D2;1CHARACTER-1B1D3;
1CHARACTER-1B1D4;1CHARACTER-1B1D5;1CHARACTER-1B1D6;1CHARACTER-1B1D7;1CHARACTER-1B1D8;
1CHARACTER-1B1D9;1CHARACTER-1B1DA;1CHARACTER-1B1DB;1CHARACTER-1B1DC;1CHARACTER-1B1DD;
1CHARACTER-1B1DE;1CHARACTER-1B1DF;1CHARACTER-1B1E0;1CHARACTER-1B1E1;1CHARACTER-1B1E2;
1CHARACTER-1B1E3;1CHARACTER-1B1E4;1CHARACTER-1B1E5;1CHARACTER-1B1E6;1CHARACTER-1B1E7;
1CHARACTER-1B1E8;1CHARACTER-1B1E9;1CHARACTER-1B1EA;1CHARACTER-1B1EB;1CHARACTER-1B1EC;
1CHARACTER-1B1ED;1CHARACTER-1B1EE;1CHARACTER-1B1EF;1CHARACTER-1B1F0;1CHARACTER-1B1F1;
1CHARACTER-1B1F2;1CHARACTER-1B1F3;1CHARACTER-1B1F4;1CHARACTER-1B1F5;1CHARACTER-1B1F6;
1CHARACTER-1B1F7;1CHARACTER-1B1F8;1CHARACTER-1B1F9;1CHARACTER-1B1FA;1CHARACTER-1B1FB;
1CHARACTER-1B1FC;1CHARACTER-1B1FD;1CHARACTER-1B1FE;1CHARACTER-1B1FF;1CHARACTER-1B200;
1CHARACTER-1B201;1CHARACTER-1B202;1CHARACTER-1B203;1CHARACTER-1B204;1CHARACTER-1B205;
1CHARACTER-1B206;1CHARACTER-1B207;1CHARACTER-1B208;1CHARACTER-1B209;1CHARACTER-1B20A;
1CHARACTER-1B20B;1CHARACTER-1B20C;1CHARACTER-1B20D;1CHARACTER-1B20E;1CHARACTER-1B20F;
1CHARACTER-1B210;1CHARACTER-1B211;1CHARACTER-1B212;1CHARACTER-1B213;1CHARACTER-1B214;
1CHARACTER-1B215;1CHARACTER-1B216;1CHARACTER-1B217;1CHARACTER-1B218;1CHARACTER-1B219;
1CHARACTER-1B21A;1CHARACTER-1B21B;1CHARACTER-1B21C;1CHARACTER-1B21D;1CHARACTER-1B21E;
1CHARACTER-1B21F;1CHARACTER-1B220;1CHARACTER-1B221;1CHARACTER-1B222;1CHARACTER-1B223;
1CHARACTER-1B224;1CHARACTER-1B225;1CHARACTER-1B226;1CHARACTER-1B227;1CHARACTER-1B228;
1CHARACTER-1B229;1CHARACTER-1B22A;1CHARACTER-1B22B;1CHARACTER-1B22C;1CHARACTER-1B22D;
1CHARACTER-1B22E;1CHARACTER-1B22F;1CHARACTER-1B230;1CHARACTER-1B231;1CHARACTER-1B232;
1CHARACTER-1B233;1CHARACTER-1B234;1CHARACTER-1B235;1CHARACTER-1B236;1CHARACTER-1B237;
1CHARACTER-1B238;1CHARACTER-1B239;1CHARACTER-1B23A;1CHARACTER-1B23B;1CHARACTER-1B23C;
1CHARACTER-1B23D;1CHARACTER-1B23E;1CHARACTER-1B23F;1CHARACTER-1B240;1CHARACTER-1B241;
1CHARACTER-1B242;1CHARACTER-1B243;1CHARACTER-1B244;1CHARACTER-1B245;1CHARACTER-1B246;
1CHARACTER-1B247;1CHARACTER-1B248;1CHARACTER-1B249;1CHARACTER-1B24A;1CHARACTER-1B24B;
1CHARACTER-1B24C;1CHARACTER-1B24D;1CHARACTER-1B24E;1CHARACTER-1B24F;1CHARACTER-1B250;
1CHARACTER-1B251;1CHARACTER-1B252;1CHARACTER-1B253;1CHARACTER-1B254;1CHARACTER-1B255;
1CHARACTER-1B256;1CHARACTER-1B257;1CHARACTER-1B258;1CHARACTER-1B259;1CHARACTER-1B25A;
1CHARACTER-1B25B;1CHARACTER-1B25C;1CHARACTER-1B25D;1CHARACTER-1B25E;1CHARACTER-1B25F;
1CHARACTER-1B260;1CHARACTER-1B261;1CHARACTER-1B262;1CHARACTER-1B263;1CHARACTER-1B264;
1CHARACTER-1B265;1CHARACTER-1B266;1CHARACTER-1B267;1CHARACTER-1B268;1CHARACTER-1B269;
1CHARACTER-1B26A;1CHARACTER-1B26B;1CHARACTER-1B26C;1CHARACTER-1B26D;1CHARACTER-1B26E;
1CHARACTER-1B26F;1CHARACTER-1B270;1CHARACTER-1B271;1CHARACTER-1B272;1CHARACTER-1B273;
1CHARACTER-1B274;1CHARACTER-1B275;1CHARACTER-1B276;1CHARACTER-1B277;1CHARACTER-1B278;
1CHARACTER-1B279;1CHARACTER-1B27A;1CHARACTER-1B27B;1CHARACTER-1B27C;1CHARACTER-1B27D;
1CHARACTER-1B27E;1CHARACTER-1B27F;1CHARACTER-1B280;1CHARACTER-1B281;1CHARACTER-1B282;
1CHARACTER-1B283;1CHARACTER-1B284;1CHARACTER-1B285;1CHARACTER-1B286;1CHARACTER-1B287;
1CHARACTER-1B288;1CHARACTER-1B289;1CHARACTER-1B28A;1CHARACTER-1B28B;1CHARACTER-1B28C;
1CHARACTER-1B28D;1CHARACTER-1B28E;1CHARACTER-1B28F;1CHARACTER-1B290;1CHARACTER-1B291;
1CHARACTER-1B292;1CHARACTER-1B293;1CHARACTER-1B294;1CHARACTER-1B295;1CHARACTER-1B296;
1CHARACTER-1B297;1CHARACTER-1B298;1CHARACTER-1B299;1CHARACTER-1B29A;1CHARACTER-1B29B;
1CHARACTER-1B29C;1CHARACTER-1B29D;1CHARACTER-1B29E;1CHARACTER-1B29F;1CHARACTER-1B2A0;
1CHARACTER-1B2A1;1CHARACTER-1B2A2;1CHARACTER-1B2A3;1CHARACTER-1B2A4;1CHARACTER-1B2A5;
1CHARACTER-1B2A6;1CHARACTER-1B2A7;1CHARACTER-1B2A8;1CHARACTER-1B2A9;1CHARACTER-1B2AA;
1CHARACTER-1B2AB;1CHARACTER-1B2AC;1CHARACTER-1B2AD;1CHARACTER-1B2AE;1CHARACTER-1B2AF;
1CHARACTER-1B2B0;1CHARACTER-1B2B1;1CHARACTER-1B2B2;1CHARACTER-1B2B3;1CHARACTER-1B2B4;
1CHARACTER-1B2B5;1CHARACTER-1B2B6;1CHARACTER-1B2B7;1CHARACTER-1B2B8;1CHARACTER-1B2B9;
1CHARACTER-1B2BA;1CHARACTER-1B2BB;1CHARACTER-1B2BC;1CHARACTER-1B2BD;1CHARACTER-1B2BE;
1CHARACTER-1B2BF;1CHARACTER-1B2C0;1CHARACTER-1B2C1;1CHARACTER-1B2C2;1CHARACTER-1B2C3;
1CHARACTER-1B2C4;1CHARACTER-1B2C5;1CHARACTER-1B2C6;1CHARACTER-1B2C7;1CHARACTER-1B2C8;
1CHARACTER-1B2C9;1CHARACTER-1B2CA;1CHARACTER-1B2CB;1CHARACTER-1B2CC;1CHARACTER-1B2CD;
1CHARACTER-1B2CE;1CHARACTER-1B2CF;1CHARACTER-1B2D0;1CHARACTER-1B2D1;1CHARACTER-1B2D2;
1CHARACTER-1B2D3;1CHARACTER-1B2D4;1CHARACTER-1B2D5;1CHARACTER-1B2D6;1CHARACTER-1B2D7;
1CHARACTER-1B2D8;1CHARACTER-1B2D9;1CHARACTER-1B2DA;1CHARACTER-1B2DB;1CHARACTER-1B2DC;
1CHARACTER-1B2DD;1CHARACTER-1B2DE;1CHARACTER-1B2DF;1CHARACTER-1B2E0;1CHARACTER-1B2E1;
1CHARACTER-1B2E2;1CHARACTER-1B2E3;1CHARACTER-1B2E4;1CHARACTER-1B2E5;1CHARACTER-1B2E6;
1CHARACTER-1B2E7;1CHARACTER-1B2E8;1CHARACTER-1B2E9;1CHARACTER-1B2EA;1CHARACTER-1B2EB;
1CHARACTER-1B2EC;1CHARACTER-1B2ED;1CHARACTER-1B2EE;1CHARACTER-1B2EF;1CHARACTER-1B2F0;
1CHARACTER-1B2F1;1CHARACTER-1B2F2;1CHARACTER-1B2F3;1CHARACTER-1B2F4;1CHARACTER-1B2F5;
1CHARACTER-1B2F6;1CHARACTER-1B2F7;1CHARACTER-1B2F8;1CHARACTER-1B2F9;1CHARACTER-1B2FA;
1CHARACTER-1B2FB;=2F800;0CJK COMPATIBILITY IDEOGRAPH-2F800;2IDEOGRAPH-2F801;2IDEOGRAPH-2F802;
2IDEOGRAPH-2F803;2IDEOGRAPH-2F804;2IDEOGRAPH-2F805;2IDEOGRAPH-2F806;2IDEOGRAPH-2F807;
2IDEOGRAPH-2F808;2IDEOGRAPH-2F809;2IDEOGRAPH-2F80A;2IDEOGRAPH-2F80B;2IDEOGRAPH-2F80C;
2IDEOGRAPH-2F80D;2IDEOGRAPH-2F80E;2IDEOGRAPH-2F80F;2IDEOGRAPH-2F810;2IDEOGRAPH-2F811;
2IDEOGRAPH-2F812;2IDEOGRAPH-2F813;2IDEOGRAPH-2F814;2IDEOGRAPH-2F815;2IDEOGRAPH-2F816;
2IDEOGRAPH-2F817;2IDEOGRAPH-2F818;2IDEOGRAPH-2F819;2IDEOGRAPH-2F81A;2IDEOGRAPH-2F81B;
2IDEOGRAPH-2F81C;2IDEOGRAPH-2F81D;2IDEOGRAPH-2F81E;2IDEOGRAPH-2F81F;2IDEOGRAPH-2F820;
2IDEOGRAPH-2F821;2IDEOGRAPH-2F822;2IDEOGRAPH-2F823;2IDEOGRAPH-2F824;2IDEOGRAPH-2F825;
2IDEOGRAPH-2F826;2IDEOGRAPH-2F827;2IDEOGRAPH-2F828;2IDEOGRAPH-2F829;2IDEOGRAPH-2F82A;
2IDEOGRAPH-2F82B;2IDEOGRAPH-2F82C;2IDEOGRAPH-2F82D;2IDEOGRAPH-2F82E;2IDEOGRAPH-2F82F;
2IDEOGRAPH-2F830;2IDEOGRAPH-2F831;2IDEOGRAPH-2F832;2IDEOGRAPH-2F833;2IDEOGRAPH-2F834;
2IDEOGRAPH-2F835;2IDEOGRAPH-2F836;2IDEOGRAPH-2F837;2IDEOGRAPH-2F838;2IDEOGRAPH-2F839;
2IDEOGRAPH-2F83A;2IDEOGRAPH-2F83B;2IDEOGRAPH-2F83C;2IDEOGRAPH-2F83D;2IDEOGRAPH-2F83E;
2IDEOGRAPH-2F83F;2IDEOGRAPH-2F840;2IDEOGRAPH-2F841;2IDEOGRAPH-2F842;2IDEOGRAPH-2F843;
2IDEOGRAPH-2F844;2IDEOGRAPH-2F845;2IDEOGRAPH-2F846;2IDEOGRAPH-2F847;2IDEOGRAPH-2F848;
2IDEOGRAPH-2F849;2IDEOGRAPH-2F84A;2IDEOGRAPH-2F84B;2IDEOGRAPH-2F84C;2IDEOGRAPH-2F84D;
2IDEOGRAPH-2F84E;2IDEOGRAPH-2F84F;2IDEOGRAPH-2F850;2IDEOGRAPH-2F851;2IDEOGRAPH-2F852;
2IDEOGRAPH-2F853;2IDEOGRAPH-2F854;2IDEOGRAPH-2F855;2IDEOGRAPH-2F856;2IDEOGRAPH-2F857;
2IDEOGRAPH-2F858;2IDEOGRAPH-2F859;2IDEOGRAPH-2F85A;2IDEOGRAPH-2F85B;2IDEOGRAPH-2F85C;
2IDEOGRAPH-2F85D;2IDEOGRAPH-2F85E;2IDEOGRAPH-2F85F;2IDEOGRAPH-2F860;2IDEOGRAPH-2F861;
2IDEOGRAPH-2F862;2IDEOGRAPH-2F863;2IDEOGRAPH-2F864;2IDEOGRAPH-2F865;2IDEOGRAPH-2F866;
2IDEOGRAPH-2F867;2IDEOGRAPH-2F868;2IDEOGRAPH-2F869;2IDEOGRAPH-2F86A;2IDEOGRAPH-2F86B;
2IDEOGRAPH-2F86C;2IDEOGRAPH-2F86D;2IDEOGRAPH-2F86E;2IDEOGRAPH-2F86F;2IDEOGRAPH-2F870;
2IDEOGRAPH-2F871;2IDEOGRAPH-2F872;2IDEOGRAPH-2F873;2IDEOGRAPH-2F874;2IDEOGRAPH-2F875;
2IDEOGRAPH-2F876;2IDEOGRAPH-2F877;2IDEOGRAPH-2F878;2IDEOGRAPH-2F879;2IDEOGRAPH-2F87A;
2IDEOGRAPH-2F87B;2IDEOGRAPH-2F87C;2IDEOGRAPH-2F87D;2IDEOGRAPH-2F87E;2IDEOGRAPH-2F87F;
2IDEOGRAPH-2F880;2IDEOGRAPH-2F881;2IDEOGRAPH-2F882;2IDEOGRAPH-2F883;2IDEOGRAPH-2F884;
2IDEOGRAPH-2F885;2IDEOGRAPH-2F886;2IDEOGRAPH-2F887;2IDEOGRAPH-2F888;2IDEOGRAPH-2F889;
2IDEOGRAPH-2F88A;2IDEOGRAPH-2F88B;2IDEOGRAPH-2F88C;2IDEOGRAPH-2F88D;2IDEOGRAPH-2F88E;
2IDEOGRAPH-2F88F;2IDEOGRAPH-2F890;2IDEOGRAPH-2F891;2IDEOGRAPH-2F892;2IDEOGRAPH-2F893;
2IDEOGRAPH-2F894;2IDEOGRAPH-2F895;2IDEOGRAPH-2F896;2IDEOGRAPH-2F897;2IDEOGRAPH-2F898;
2IDEOGRAPH-2F899;2IDEOGRAPH-2F89A;2IDEOGRAPH-2F89B;2IDEOGRAPH-2F89C;2IDEOGRAPH-2F89D;
2IDEOGRAPH-2F89E;2IDEOGRAPH-2F89F;2IDEOGRAPH-2F8A0;2IDEOGRAPH-2F8A1;2IDEOGRAPH-2F8A2;
2IDEOGRAPH-2F8A3;2IDEOGRAPH-2F8A4;2IDEOGRAPH-2F8A5;2IDEOGRAPH-2F8A6;2IDEOGRAPH-2F8A7;
2IDEOGRAPH-2F8A8;2IDEOGRAPH-2F8A9;2IDEOGRAPH-2F8AA;2IDEOGRAPH-2F8AB;2IDEOGRAPH-2F8AC;
2IDEOGRAPH-2F8AD;2IDEOGRAPH-2F8AE;2IDEOGRAPH-2F8AF;2IDEOGRAPH-2F8B0;2IDEOGRAPH-2F8B1;
2IDEOGRAPH-2F8B2;2IDEOGRAPH-2F8B3;2IDEOGRAPH-2F8B4;2IDEOGRAPH-2F8B5;2IDEOGRAPH-2F8B6;
2IDEOGRAPH-2F8B7;2IDEOGRAPH-2F8B8;2IDEOGRAPH-2F8B9;2IDEOGRAPH-2F8BA;2IDEOGRAPH-2F8BB;
2IDEOGRAPH-2F8BC;2IDEOGRAPH-2F8BD;2IDEOGRAPH-2F8BE;2IDEOGRAPH-2F8BF;2IDEOGRAPH-2F8C0;
2IDEOGRAPH-2F8C1;2IDEOGRAPH-2F8C2;2IDEOGRAPH-2F8C3;2IDEOGRAPH-2F8C4;2IDEOGRAPH-2F8C5;
2IDEOGRAPH-2F8C6;2IDEOGRAPH-2F8C7;2IDEOGRAPH-2F8C8;2IDEOGRAPH-2F8C9;2IDEOGRAPH-2F8CA;
2IDEOGRAPH-2F8CB;2IDEOGRAPH-2F8CC;2IDEOGRAPH-2F8CD;2IDEOGRAPH-2F8CE;2IDEOGRAPH-2F8CF;
2IDEOGRAPH-2F8D0;2IDEOGRAPH-2F8D1;2IDEOGRAPH-2F8D2;2IDEOGRAPH-2F8D3;2IDEOGRAPH-2F8D4;
2IDEOGRAPH-2F8D5;2IDEOGRAPH-2F8D6;2IDEOGRAPH-2F8D7;2IDEOGRAPH-2F8D8;2IDEOGRAPH-2F8D9;
2IDEOGRAPH-2F8DA;2IDEOGRAPH-2F8DB;2IDEOGRAPH-2F8DC;2IDEOGRAPH-2F8DD;2IDEOGRAPH-2F8DE;
2IDEOGRAPH-2F8DF;2IDEOGRAPH-2F8E0;2IDEOGRAPH-2F8E1;2IDEOGRAPH-2F8E2;2IDEOGRAPH-2F8E3;
2IDEOGRAPH-2F8E4;2IDEOGRAPH-2F8E5;2IDEOGRAPH-2F8E6;2IDEOGRAPH-2F8E7;2IDEOGRAPH-2F8E8;
2IDEOGRAPH-2F8E9;2IDEOGRAPH-2F8EA;2IDEOGRAPH-2F8EB;2IDEOGRAPH-2F8EC;2IDEOGRAPH-2F8ED;
2IDEOGRAPH-2F8EE;2IDEOGRAPH-2F8EF;2IDEOGRAPH-2F8F0;2IDEOGRAPH-2F8F1;2IDEOGRAPH-2F8F2;
2IDEOGRAPH-2F8F3;2IDEOGRAPH-2F8F4;2IDEOGRAPH-2F8F5;2IDEOGRAPH-2F8F6;2IDEOGRAPH-2F8F7;
2IDEOGRAPH-2F8F8;2IDEOGRAPH-2F8F9;2IDEOGRAPH-2F8FA;2IDEOGRAPH-2F8FB;2IDEOGRAPH-2F8FC;
2IDEOGRAPH-2F8FD;2IDEOGRAPH-2F8FE;2IDEOGRAPH-2F8FF;2IDEOGRAPH-2F900;2IDEOGRAPH-2F901;
2IDEOGRAPH-2F902;2IDEOGRAPH-2F903;2IDEOGRAPH-2F904;2IDEOGRAPH-2F905;2IDEOGRAPH-2F906;
2IDEOGRAPH-2F907;2IDEOGRAPH-2F908;2IDEOGRAPH-2F909;2IDEOGRAPH-2F90A;2IDEOGRAPH-2F90B;
2IDEOGRAPH-2F90C;2IDEOGRAPH-2F90D;2IDEOGRAPH-2F90E;2IDEOGRAPH-2F90F;2IDEOGRAPH-2F910;
2IDEOGRAPH-2F911;2IDEOGRAPH-2F912;2IDEOGRAPH-2F913;2IDEOGRAPH-2F914;2IDEOGRAPH-2F915;
2IDEOGRAPH-2F916;2IDEOGRAPH-2F917;2IDEOGRAPH-2F918;2IDEOGRAPH-2F919;2IDEOGRAPH-2F91A;
2IDEOGRAPH-2F91B;2IDEOGRAPH-2F91C;2IDEOGRAPH-2F91D;2IDEOGRAPH-2F91E;2IDEOGRAPH-2F91F;
2IDEOGRAPH-2F920;2IDEOGRAPH-2F921;2IDEOGRAPH-2F922;2IDEOGRAPH-2F923;2IDEOGRAPH-2F924;
2IDEOGRAPH-2F925;2IDEOGRAPH-2F926;2IDEOGRAPH-2F927;2IDEOGRAPH-2F928;2IDEOGRAPH-2F929;
2IDEOGRAPH-2F92A;2IDEOGRAPH-2F92B;2IDEOGRAPH-2F92C;2IDEOGRAPH-2F92D;2IDEOGRAPH-2F92E;
2IDEOGRAPH-2F92F;2IDEOGRAPH-2F930;2IDEOGRAPH-2F931;2IDEOGRAPH-2F932;2IDEOGRAPH-2F933;
2IDEOGRAPH-2F934;2IDEOGRAPH-2F935;2IDEOGRAPH-2F936;2IDEOGRAPH-2F937;2IDEOGRAPH-2F938;
2IDEOGRAPH-2F939;2IDEOGRAPH-2F93A;2IDEOGRAPH-2F93B;2IDEOGRAPH-2F93C;2IDEOGRAPH-2F93D;
2IDEOGRAPH-2F93E;2IDEOGRAPH-2F93F;2IDEOGRAPH-2F940;2IDEOGRAPH-2F941;2IDEOGRAPH-2F942;
2IDEOGRAPH-2F943;2IDEOGRAPH-2F944;2IDEOGRAPH-2F945;2IDEOGRAPH-2F946;2IDEOGRAPH-2F947;
2IDEOGRAPH-2F948;2IDEOGRAPH-2F949;2IDEOGRAPH-2F94A;2IDEOGRAPH-2F94B;2IDEOGRAPH-2F94C;
2IDEOGRAPH-2F94D;2IDEOGRAPH-2F94E;2IDEOGRAPH-2F94F;2IDEOGRAPH-2F950;2IDEOGRAPH-2F951;
2IDEOGRAPH-2F952;2IDEOGRAPH-2F953;2IDEOGRAPH-2F954;2IDEOGRAPH-2F955;2IDEOGRAPH-2F956;
2IDEOGRAPH-2F957;2IDEOGRAPH-2F958;2IDEOGRAPH-2F959;2IDEOGRAPH-2F95A;2IDEOGRAPH-2F95B;
2IDEOGRAPH-2F95C;2IDEOGRAPH-2F95D;2IDEOGRAPH-2F95E;2IDEOGRAPH-2F95F;2IDEOGRAPH-2F960;
2IDEOGRAPH-2F961;2IDEOGRAPH-2F962;2IDEOGRAPH-2F963;2IDEOGRAPH-2F964;2IDEOGRAPH-2F965;
2IDEOGRAPH-2F966;2IDEOGRAPH-2F967;2IDEOGRAPH-2F968;2IDEOGRAPH-2F969;2IDEOGRAPH-2F96A;
2IDEOGRAPH-2F96B;2IDEOGRAPH-2F96C;2IDEOGRAPH-2F96D;2IDEOGRAPH-2F96E;2IDEOGRAPH-2F96F;
2IDEOGRAPH-2F970;2IDEOGRAPH-2F971;2IDEOGRAPH-2F972;2IDEOGRAPH-2F973;2IDEOGRAPH-2F974;
2IDEOGRAPH-2F975;2IDEOGRAPH-2F976;2IDEOGRAPH-2F977;2IDEOGRAPH-2F978;2IDEOGRAPH-2F979;
2IDEOGRAPH-2F97A;2IDEOGRAPH-2F97B;2IDEOGRAPH-2F97C;2IDEOGRAPH-2F97D;2IDEOGRAPH-2F97E;
2IDEOGRAPH-2F97F;2IDEOGRAPH-2F980;2IDEOGRAPH-2F981;2IDEOGRAPH-2F982;2IDEOGRAPH-2F983;
2IDEOGRAPH-2F984;2IDEOGRAPH-2F985;2IDEOGRAPH-2F986;2IDEOGRAPH-2F987;2IDEOGRAPH-2F988;
2IDEOGRAPH-2F989;2IDEOGRAPH-2F98A;2IDEOGRAPH-2F98B;2IDEOGRAPH-2F98C;2IDEOGRAPH-2F98D;
2IDEOGRAPH-2F98E;2IDEOGRAPH-2F98F;2IDEOGRAPH-2F990;2IDEOGRAPH-2F991;2IDEOGRAPH-2F992;
2IDEOGRAPH-2F993;2IDEOGRAPH-2F994;2IDEOGRAPH-2F995;2IDEOGRAPH-2F996;2IDEOGRAPH-2F997;
2IDEOGRAPH-2F998;2IDEOGRAPH-2F999;2IDEOGRAPH-2F99A;2IDEOGRAPH-2F99B;2IDEOGRAPH-2F99C;
2IDEOGRAPH-2F99D;2IDEOGRAPH-2F99E;2IDEOGRAPH-2F99F;2IDEOGRAPH-2F9A0;2IDEOGRAPH-2F9A1;
2IDEOGRAPH-2F9A2;2IDEOGRAPH-2F9A3;2IDEOGRAPH-2F9A4;2IDEOGRAPH-2F9A5;2IDEOGRAPH-2F9A6;
2IDEOGRAPH-2F9A7;2IDEOGRAPH-2F9A8;2IDEOGRAPH-2F9A9;2IDEOGRAPH-2F9AA;2IDEOGRAPH-2F9AB;
2IDEOGRAPH-2F9AC;2IDEOGRAPH-2F9AD;2IDEOGRAPH-2F9AE;2IDEOGRAPH-2F9AF;2IDEOGRAPH-2F9B0;
2IDEOGRAPH-2F9B1;2IDEOGRAPH-2F9B2;2IDEOGRAPH-2F9B3;2IDEOGRAPH-2F9B4;2IDEOGRAPH-2F9B5;
2IDEOGRAPH-2F9B6;2IDEOGRAPH-2F9B7;2IDEOGRAPH-2F9B8;2IDEOGRAPH-2F9B9;2IDEOGRAPH-2F9BA;
2IDEOGRAPH-2F9BB;2IDEOGRAPH-2F9BC;2IDEOGRAPH-2F9BD;2IDEOGRAPH-2F9BE;2IDEOGRAPH-2F9BF;
2IDEOGRAPH-2F9C0;2IDEOGRAPH-2F9C1;2IDEOGRAPH-2F9C2;2IDEOGRAPH-2F9C3;2IDEOGRAPH-2F9C4;
2IDEOGRAPH-2F9C5;2IDEOGRAPH-2F9C6;2IDEOGRAPH-2F9C7;2IDEOGRAPH-2F9C8;2IDEOGRAPH-2F9C9;
2IDEOGRAPH-2F9CA;2IDEOGRAPH-2F9CB;2IDEOGRAPH-2F9CC;2IDEOGRAPH-2F9CD;2IDEOGRAPH-2F9CE;
2IDEOGRAPH-2F9CF;2IDEOGRAPH-2F9D0;2IDEOGRAPH-2F9D1;2IDEOGRAPH-2F9D2;2IDEOGRAPH-2F9D3;
2IDEOGRAPH-2F9D4;2IDEOGRAPH-2F9D5;2IDEOGRAPH-2F9D6;2IDEOGRAPH-2F9D7;2IDEOGRAPH-2F9D8;
2IDEOGRAPH-2F9D9;2IDEOGRAPH-2F9DA;2IDEOGRAPH-2F9DB;2IDEOGRAPH-2F9DC;2IDEOGRAPH-2F9DD;
2IDEOGRAPH-2F9DE;2IDEOGRAPH-2F9DF;2IDEOGRAPH-2F9E0;2IDEOGRAPH-2F9E1;2IDEOGRAPH-2F9E2;
2IDEOGRAPH-2F9E3;2IDEOGRAPH-2F9E4;2IDEOGRAPH-2F9E5;2IDEOGRAPH-2F9E6;2IDEOGRAPH-2F9E7;
2IDEOGRAPH-2F9E8;2IDEOGRAPH-2F9E9;2IDEOGRAPH-2F9EA;2IDEOGRAPH-2F9EB;2IDEOGRAPH-2F9EC;
2IDEOGRAPH-2F9ED;2IDEOGRAPH-2F9EE;2IDEOGRAPH-2F9EF;2IDEOGRAPH-2F9F0;2IDEOGRAPH-2F9F1;
2IDEOGRAPH-2F9F2;2IDEOGRAPH-2F9F3;2IDEOGRAPH-2F9F4;2IDEOGRAPH-2F9F5;2IDEOGRAPH-2F9F6;
2IDEOGRAPH-2F9F7;2IDEOGRAPH-2F9F8;2IDEOGRAPH-2F9F9;2IDEOGRAPH-2F9FA;2IDEOGRAPH-2F9FB;
2IDEOGRAPH-2F9FC;2IDEOGRAPH-2F9FD;2IDEOGRAPH-2F9FE;2IDEOGRAPH-2F9FF;2IDEOGRAPH-2FA00;
2IDEOGRAPH-2FA01;2IDEOGRAPH-2FA02;2IDEOGRAPH-2FA03;2IDEOGRAPH-2FA04;2IDEOGRAPH-2FA05;
2IDEOGRAPH-2FA06;2IDEOGRAPH-2FA07;2IDEOGRAPH-2FA08;2IDEOGRAPH-2FA09;2IDEOGRAPH-2FA0A;
2IDEOGRAPH-2FA0B;2IDEOGRAPH-2FA0C;2IDEOGRAPH-2FA0D;2IDEOGRAPH-2FA0E;2IDEOGRAPH-2FA0F;
2IDEOGRAPH-2FA10;2IDEOGRAPH-2FA11;2IDEOGRAPH-2FA12;2IDEOGRAPH-2FA13;2IDEOGRAPH-2FA14;
2IDEOGRAPH-2FA15;2IDEOGRAPH-2FA16;2IDEOGRAPH-2FA17;2IDEOGRAPH-2FA18;2IDEOGRAPH-2FA19;
2IDEOGRAPH-2FA1A;2IDEOGRAPH-2FA1B;2IDEOGRAPH-2FA1C;2IDEOGRAPH-2FA1D;"

end ServiceManifest.Text
