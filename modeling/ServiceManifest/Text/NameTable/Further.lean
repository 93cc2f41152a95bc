/-!
# Names of characters: further scripts and names

The tables are written as `ServiceManifest.Text.listedCode?` reads them. The last one has names
besides those that are listed elsewhere, among them the names of control characters.
-/

namespace ServiceManifest.Text

/-- Names of Hebrew, Arabic, Syriac and further scripts of the Middle East. -/
def semiticNames : String := "
=591;0HEBREW ACCENT ETNAHTA;2SEGOL;2SHALSHELET;2ZAQEF QATAN;3GADOL;2TIPEHA;2REVIA;2ZARQA;2PASHTA;
2YETIV;2TEVIR;2GERESH;3MUQDAM;2GERSHAYIM;2QARNEY PARA;2TELISHA GEDOLA;2PAZER;2ATNAH HAFUKH;2MUNAH;
2MAHAPAKH;2MERKHA;3KEFULA;2DARGA;2QADMA;2TELISHA QETANA;2YERAH BEN YOMO;2OLE;2ILUY;2DEHI;2ZINOR;
1MARK MASORA CIRCLE;1POINT SHEVA;2HATAF SEGOL;3PATAH;3QAMATS;2HIRIQ;2TSERE;2SEGOL;2PATAH;2QAMATS;
2HOLAM;3HASER FOR VAV;2QUBUTS;2DAGESH OR MAPIQ;2METEG;1PUNCTUATION MAQAF;1POINT RAFE;
1PUNCTUATION PASEQ;1POINT SHIN DOT;2SIN DOT;1PUNCTUATION SOF PASUQ;1MARK UPPER DOT;2LOWER DOT;
1PUNCTUATION NUN HAFUKHA;1POINT QAMATS QATAN;=5D0;1LETTER ALEF;2BET;2GIMEL;2DALET;2HE;2VAV;2ZAYIN;
2HET;2TET;2YOD;2FINAL KAF;2KAF;2LAMED;2FINAL MEM;2MEM;2FINAL NUN;2NUN;2SAMEKH;2AYIN;2FINAL PE;2PE;
2FINAL TSADI;2TSADI;2QOF;2RESH;2SHIN;2TAV;=5EF;1YOD TRIANGLE;1LIGATURE YIDDISH DOUBLE VAV;3VAV YOD;
3DOUBLE YOD;1PUNCTUATION GERESH;2GERSHAYIM;=600;0ARABIC NUMBER SIGN;1SIGN SANAH;1FOOTNOTE MARKER;
1SIGN SAFHA;2SAMVAT;1NUMBER MARK ABOVE;0ARABIC-INDIC CUBE ROOT;1FOURTH ROOT;0ARABIC RAY;
0ARABIC-INDIC PER MILLE SIGN;2TEN THOUSAND SIGN;0AFGHANI SIGN;0ARABIC COMMA;1DATE SEPARATOR;
1POETIC VERSE SIGN;1SIGN MISRA;2SALLALLAHOU ALAYHE WASSALLAM;2ALAYHE ASSALLAM;2RAHMATULLAH ALAYHE;
2RADI ALLAHOU ANHU;2TAKHALLUS;1SMALL HIGH TAH;3LIGATURE ALEF WITH LAM WITH YEH;3ZAIN;2FATHA;2DAMMA;
2KASRA;1SEMICOLON;1LETTER MARK;1END OF TEXT MARK;1TRIPLE DOT PUNCTUATION MARK;1QUESTION MARK;
1LETTER KASHMIRI YEH;2HAMZA;2ALEF WITH MADDA ABOVE;4HAMZA ABOVE;2WAW WITH HAMZA ABOVE;
2ALEF WITH HAMZA BELOW;2YEH WITH HAMZA ABOVE;2ALEF;2BEH;2TEH MARBUTA;2TEH;2THEH;2JEEM;2HAH;2KHAH;
2DAL;2THAL;2REH;2ZAIN;2SEEN;2SHEEN;2SAD;2DAD;2TAH;2ZAH;2AIN;2GHAIN;2KEHEH WITH TWO DOTS ABOVE;
4THREE DOTS BELOW;2FARSI YEH WITH INVERTED V;5TWO DOTS ABOVE;5THREE DOTS ABOVE;1TATWEEL;1LETTER FEH;
2QAF;2KAF;2LAM;2MEEM;2NOON;2HEH;2WAW;2ALEF MAKSURA;2YEH;1FATHATAN;1DAMMATAN;1KASRATAN;1FATHA;1DAMMA;
1KASRA;1SHADDA;1SUKUN;1MADDAH ABOVE;1HAMZA ABOVE;2BELOW;1SUBSCRIPT ALEF;1INVERTED DAMMA;
1MARK NOON GHUNNA;1ZWARAKAY;1VOWEL SIGN SMALL V ABOVE;3INVERTED SMALL V ABOVE;3DOT BELOW;
1REVERSED DAMMA;1FATHA WITH TWO DOTS;1WAVY HAMZA BELOW;0ARABIC-INDIC DIGIT ZERO;2ONE;2TWO;2THREE;
2FOUR;2FIVE;2SIX;2SEVEN;2EIGHT;2NINE;0ARABIC PERCENT SIGN;1DECIMAL SEPARATOR;1THOUSANDS SEPARATOR;
1FIVE POINTED STAR;1LETTER DOTLESS BEH;3QAF;2SUPERSCRIPT ALEF;2ALEF WASLA;3WITH WAVY HAMZA ABOVE;
6BELOW;2HIGH HAMZA;4ALEF;4WAW;2U WITH HAMZA ABOVE;2HIGH HAMZA YEH;2TTEH;2TTEHEH;2BEEH;
2TEH WITH RING;4THREE DOTS ABOVE DOWNWARDS;2PEH;2TEHEH;2BEHEH;2HAH WITH HAMZA ABOVE;
4TWO DOTS VERTICAL ABOVE;2NYEH;2DYEH;2HAH WITH THREE DOTS ABOVE;2TCHEH;2TCHEHEH;2DDAL;
2DAL WITH RING;4DOT BELOW;6AND SMALL TAH;2DAHAL;2DDAHAL;2DUL;2DAL WITH THREE DOTS ABOVE DOWNWARDS;
4FOUR DOTS ABOVE;2RREH;2REH WITH SMALL V;4RING;4DOT BELOW;4SMALL V BELOW;4DOT BELOW AND DOT ABOVE;
4TWO DOTS ABOVE;2JEH;2REH WITH FOUR DOTS ABOVE;2SEEN WITH DOT BELOW AND DOT ABOVE;4THREE DOTS BELOW;
7AND THREE DOTS ABOVE;2SAD WITH TWO DOTS BELOW;4THREE DOTS ABOVE;2TAH WITH THREE DOTS ABOVE;
2AIN WITH THREE DOTS ABOVE;2DOTLESS FEH;2FEH WITH DOT MOVED BELOW;5BELOW;2VEH;
2FEH WITH THREE DOTS BELOW;2PEHEH;2QAF WITH DOT ABOVE;4THREE DOTS ABOVE;2KEHEH;2SWASH KAF;
2KAF WITH RING;4DOT ABOVE;2NG;2KAF WITH THREE DOTS BELOW;2GAF;3WITH RING;2NGOEH;
2GAF WITH TWO DOTS BELOW;2GUEH;2GAF WITH THREE DOTS ABOVE;2LAM WITH SMALL V;4DOT ABOVE;
4THREE DOTS ABOVE;6BELOW;2NOON WITH DOT BELOW;3GHUNNA;2RNOON;2NOON WITH RING;4THREE DOTS ABOVE;
2HEH DOACHASHMEE;2TCHEH WITH DOT ABOVE;2HEH WITH YEH ABOVE;3GOAL;4WITH HAMZA ABOVE;
2TEH MARBUTA GOAL;2WAW WITH RING;2KIRGHIZ OE;2OE;2U;2YU;2KIRGHIZ YU;2WAW WITH TWO DOTS ABOVE;2VE;
2FARSI YEH;2YEH WITH TAIL;4SMALL V;2WAW WITH DOT ABOVE;2E;2YEH WITH THREE DOTS BELOW;3BARREE;
4WITH HAMZA ABOVE;1FULL STOP;1LETTER AE;1SMALL HIGH LIGATURE SAD WITH LAM WITH ALEF MAKSURA;
4QAF WITH LAM WITH ALEF MAKSURA;3MEEM INITIAL FORM;3LAM ALEF;3JEEM;3THREE DOTS;3SEEN;1END OF AYAH;
1START OF RUB EL HIZB;1SMALL HIGH ROUNDED ZERO;3UPRIGHT RECTANGULAR ZERO;3DOTLESS HEAD OF KHAH;
3MEEM ISOLATED FORM;2LOW SEEN;2HIGH MADDA;2WAW;2YEH;2HIGH YEH;3NOON;1PLACE OF SAJDAH;
1EMPTY CENTRE LOW STOP;3HIGH STOP;1ROUNDED HIGH STOP WITH FILLED CENTRE;1SMALL LOW MEEM;
1LETTER DAL WITH INVERTED V;2REH WITH INVERTED V;0EXTENDED ARABIC-INDIC DIGIT ZERO;3ONE;3TWO;3THREE;
3FOUR;3FIVE;3SIX;3SEVEN;3EIGHT;3NINE;0ARABIC LETTER SHEEN WITH DOT BELOW;2DAD WITH DOT BELOW;
2GHAIN WITH DOT BELOW;1SIGN SINDHI AMPERSAND;3POSTPOSITION MEN;1LETTER HEH WITH INVERTED V;
0SYRIAC END OF PARAGRAPH;1SUPRALINEAR FULL STOP;1SUBLINEAR FULL STOP;1SUPRALINEAR COLON;
1SUBLINEAR COLON;1HORIZONTAL COLON;1COLON SKEWED LEFT;3RIGHT;1SUPRALINEAR COLON SKEWED LEFT;
1SUBLINEAR COLON SKEWED RIGHT;1CONTRACTION;1HARKLEAN OBELUS;2METOBELUS;2ASTERISCUS;=70F;
1ABBREVIATION MARK;1LETTER ALAPH;2SUPERSCRIPT ALAPH;2BETH;2GAMAL;3GARSHUNI;2DALATH;
2DOTLESS DALATH RISH;2HE;2WAW;2ZAIN;2HETH;2TETH;3GARSHUNI;2YUDH;3HE;2KAPH;2LAMADH;2MIM;2NUN;
2SEMKATH;2FINAL SEMKATH;2E;2PE;2REVERSED PE;2SADHE;2QAPH;2RISH;2SHIN;2TAW;2PERSIAN BHETH;3GHAMAL;
3DHALATH;1PTHAHA ABOVE;2BELOW;2DOTTED;1ZQAPHA ABOVE;2BELOW;2DOTTED;1RBASA ABOVE;2BELOW;
1DOTTED ZLAMA HORIZONTAL;3ANGULAR;1HBASA ABOVE;2BELOW;1HBASA-ESASA DOTTED;1ESASA ABOVE;2BELOW;
1RWAHA;1FEMININE DOT;1QUSHSHAYA;1RUKKAKHA;1TWO VERTICAL DOTS ABOVE;4BELOW;1THREE DOTS ABOVE;3BELOW;
1OBLIQUE LINE ABOVE;3BELOW;1MUSIC;1BARREKH;=74D;1LETTER SOGDIAN ZHAIN;3KHAPH;3FE;
0ARABIC LETTER BEH WITH THREE DOTS HORIZONTALLY BELOW;4DOT BELOW AND THREE DOTS ABOVE;
4THREE DOTS POINTING UPWARDS BELOW;9AND TWO DOTS ABOVE;4TWO DOTS BELOW AND DOT ABOVE;
4INVERTED SMALL V BELOW;4SMALL V;2HAH WITH TWO DOTS ABOVE;4THREE DOTS POINTING UPWARDS BELOW;
2DAL WITH TWO DOTS VERTICALLY BELOW AND SMALL TAH;4INVERTED SMALL V BELOW;2REH WITH STROKE;
2SEEN WITH FOUR DOTS ABOVE;2AIN WITH TWO DOTS ABOVE;4THREE DOTS POINTING DOWNWARDS ABOVE;
4TWO DOTS VERTICALLY ABOVE;2FEH WITH TWO DOTS BELOW;4THREE DOTS POINTING UPWARDS BELOW;
2KEHEH WITH DOT ABOVE;4THREE DOTS ABOVE;6POINTING UPWARDS BELOW;2MEEM WITH DOT ABOVE;5BELOW;
2NOON WITH TWO DOTS BELOW;4SMALL TAH;5V;2LAM WITH BAR;2REH WITH TWO DOTS VERTICALLY ABOVE;
4HAMZA ABOVE;2SEEN WITH TWO DOTS VERTICALLY ABOVE;2HAH WITH SMALL ARABIC LETTER TAH BELOW;
8AND TWO DOTS;2SEEN WITH SMALL ARABIC LETTER TAH AND TWO DOTS;
2REH WITH SMALL ARABIC LETTER TAH AND TWO DOTS;2HAH WITH SMALL ARABIC LETTER TAH ABOVE;
2ALEF WITH EXTENDED ARABIC-INDIC DIGIT TWO ABOVE;7THREE ABOVE;
2FARSI YEH WITH EXTENDED ARABIC-INDIC DIGIT TWO ABOVE;8THREE ABOVE;8FOUR BELOW;
2WAW WITH EXTENDED ARABIC-INDIC DIGIT TWO ABOVE;7THREE ABOVE;
2YEH BARREE WITH EXTENDED ARABIC-INDIC DIGIT TWO ABOVE;8THREE ABOVE;
2HAH WITH EXTENDED ARABIC-INDIC DIGIT FOUR BELOW;2SEEN WITH EXTENDED ARABIC-INDIC DIGIT FOUR ABOVE;
4INVERTED V;2KAF WITH TWO DOTS ABOVE;0THAANA LETTER HAA;2SHAVIYANI;2NOONU;2RAA;2BAA;2LHAVIYANI;
2KAAFU;2ALIFU;2VAAVU;2MEEMU;2FAAFU;2DHAALU;2THAA;2LAAMU;2GAAFU;2GNAVIYANI;2SEENU;2DAVIYANI;
2ZAVIYANI;2TAVIYANI;2YAA;2PAVIYANI;2JAVIYANI;2CHAVIYANI;2TTAA;2HHAA;2KHAA;2THAALU;2ZAA;2SHEENU;
2SAADHU;2DAADHU;2TO;2ZO;2AINU;2GHAINU;2QAAFU;2WAAVU;1ABAFILI;1AABAAFILI;1IBIFILI;1EEBEEFILI;
1UBUFILI;1OOBOOFILI;1EBEFILI;1EYBEYFILI;1OBOFILI;1OABOAFILI;1SUKUN;1LETTER NAA;=800;
0SAMARITAN LETTER ALAF;2BIT;2GAMAN;2DALAT;2IY;2BAA;2ZEN;2IT;2TIT;2YUT;2KAAF;2LABAT;2MIM;2NUN;
2SINGAAT;2IN;2FI;2TSAADIY;2QUF;2RISH;2SHAN;2TAAF;1MARK IN;2IN-ALAF;2OCCLUSION;2DAGESH;
1MODIFIER LETTER EPENTHETIC YUT;1MARK EPENTHETIC YUT;1VOWEL SIGN LONG E;3E;3OVERLONG AA;3LONG AA;
3AA;3OVERLONG A;3LONG A;3A;1MODIFIER LETTER SHORT A;1VOWEL SIGN SHORT A;3LONG U;3U;
1MODIFIER LETTER I;1VOWEL SIGN LONG I;3I;3O;3SUKUN;1MARK NEQUDAA;=830;1PUNCTUATION NEQUDAA;2AFSAAQ;
2ANGED;2BAU;2ATMAAU;2SHIYYAALAA;1ABBREVIATION MARK;1PUNCTUATION MELODIC QITSA;2ZIQAA;2QITSA;2ZAEF;
2TURU;2ARKAANU;2SOF MASHFAAT;2ANNAAU;=840;0MANDAIC LETTER HALQA;2AB;2AG;2AD;2AH;2USHENNA;2AZ;2IT;
2ATT;2AKSA;2AK;2AL;2AM;2AN;2AS;2IN;2AP;2ASZ;2AQ;2AR;2ASH;2AT;2DUSHENNA;2KAD;2AIN;1AFFRICATION MARK;
1VOCALIZATION MARK;1GEMINATION MARK;=85E;1PUNCTUATION;=860;0SYRIAC LETTER MALAYALAM NGA;3JA;3NYA;
3TTA;3NNA;3NNNA;3BHA;3RA;3LLA;3LLLA;3SSA;=870;0ARABIC LETTER ALEF WITH ATTACHED FATHA;
5TOP RIGHT FATHA;4RIGHT MIDDLE STROKE;4LEFT MIDDLE STROKE;4ATTACHED KASRA;5BOTTOM RIGHT KASRA;
5ROUND DOT ABOVE;5RIGHT ROUND DOT;5LEFT ROUND DOT;5ROUND DOT BELOW;4DOT ABOVE;
4ATTACHED TOP RIGHT FATHA AND DOT ABOVE;4RIGHT MIDDLE STROKE AND DOT ABOVE;
4ATTACHED BOTTOM RIGHT KASRA AND DOT ABOVE;5TOP RIGHT FATHA AND LEFT RING;
4RIGHT MIDDLE STROKE AND LEFT RING;4ATTACHED BOTTOM RIGHT KASRA AND LEFT RING;5RIGHT HAMZA;
5LEFT HAMZA;1TATWEEL WITH OVERSTRUCK HAMZA;4WAW;3TWO DOTS BELOW;1LETTER THIN YEH;
1BASELINE ROUND DOT;1RAISED ROUND DOT;1LETTER NOON WITH INVERTED SMALL V;
2HAH WITH INVERTED SMALL V BELOW;2TAH WITH DOT BELOW;4THREE DOTS BELOW;
2KEHEH WITH TWO DOTS VERTICALLY BELOW;1VERTICAL TAIL;=890;1POUND MARK ABOVE;1PIASTRE MARK ABOVE;
=898;1SMALL HIGH WORD AL-JUZ;2LOW WORD ISHMAAM;4IMAALA;4TASHEEL;1MADDA WAAJIB;
1SUPERSCRIPT ALEF MOKHASSAS;1DOUBLED MADDA;1HALF MADDA OVER MADDA;1LETTER BEH WITH SMALL V BELOW;
4HAMZA ABOVE;2JEEM WITH TWO DOTS ABOVE;2TAH WITH TWO DOTS ABOVE;
2FEH WITH DOT BELOW AND THREE DOTS ABOVE;2QAF WITH DOT BELOW;2LAM WITH DOUBLE BAR;
2MEEM WITH THREE DOTS ABOVE;2YEH WITH TWO DOTS BELOW AND HAMZA ABOVE;8DOT ABOVE;2REH WITH LOOP;
2WAW WITH DOT WITHIN;2ROHINGYA YEH;2LOW ALEF;2DAL WITH THREE DOTS BELOW;2SAD WITH THREE DOTS BELOW;
2GAF WITH INVERTED STROKE;2STRAIGHT WAW;2ZAIN WITH INVERTED V ABOVE;2AIN WITH THREE DOTS BELOW;
2KAF WITH DOT BELOW;2QAF WITH DOT BELOW AND NO DOTS ABOVE;2BEH WITH SMALL MEEM ABOVE;
2PEH WITH SMALL MEEM ABOVE;2TEH WITH SMALL TEH ABOVE;2REH WITH SMALL NOON ABOVE;
2YEH WITH TWO DOTS BELOW AND SMALL NOON ABOVE;2AFRICAN FEH;3QAF;3NOON;2PEH WITH SMALL V;
2TEH WITH SMALL V;2TTEH WITH SMALL V;2TCHEH WITH SMALL V;2KEHEH WITH SMALL V;
2GHAIN WITH THREE DOTS ABOVE;2AFRICAN QAF WITH THREE DOTS ABOVE;2JEEM WITH THREE DOTS ABOVE;6BELOW;
2LAM WITH SMALL ARABIC LETTER TAH ABOVE;2GRAF;1SMALL FARSI YEH;2HIGH FARSI YEH;
3YEH BARREE WITH TWO DOTS BELOW;3WORD SAH;3ZAH;1LARGE ROUND DOT ABOVE;4BELOW;1SUKUN BELOW;
1LARGE CIRCLE BELOW;2ROUND DOT INSIDE CIRCLE BELOW;1SMALL LOW WAW;2HIGH WORD AR-RUB;3SAD;3AIN;3QAF;
3NOON WITH KASRA;2LOW NOON WITH KASRA;2HIGH WORD ATH-THALATHA;4AS-SAJDA;4AN-NISF;4SAKTA;4QIF;4WAQFA;
3FOOTNOTE MARKER;3SIGN SAFHA;1DISPUTED END OF AYAH;1TURNED DAMMA BELOW;1CURLY FATHA;2DAMMA;2KASRA;
2FATHATAN;2DAMMATAN;2KASRATAN;1TONE ONE DOT ABOVE;2TWO DOTS ABOVE;2LOOP ABOVE;2ONE DOT BELOW;
2TWO DOTS BELOW;2LOOP BELOW;1OPEN FATHATAN;2DAMMATAN;2KASRATAN;1SMALL HIGH WAW;1FATHA WITH RING;
3DOT ABOVE;1KASRA WITH DOT BELOW;1LEFT ARROWHEAD ABOVE;1RIGHT ARROWHEAD ABOVE;1LEFT ARROWHEAD BELOW;
1RIGHT ARROWHEAD BELOW;1DOUBLE RIGHT ARROWHEAD ABOVE;5WITH DOT;1RIGHT ARROWHEAD ABOVE WITH DOT;
1DAMMA WITH DOT;1MARK SIDEWAYS NOON GHUNNA;=FB1D;0HEBREW LETTER YOD WITH HIRIQ;
1POINT JUDEO-SPANISH VARIKA;1LIGATURE YIDDISH YOD YOD PATAH;1LETTER ALTERNATIVE AYIN;2WIDE ALEF;
3DALET;3HE;3KAF;3LAMED;3FINAL MEM;3RESH;3TAV;2ALTERNATIVE PLUS SIGN;2SHIN WITH SHIN DOT;4SIN DOT;
4DAGESH AND SHIN DOT;6SIN DOT;2ALEF WITH PATAH;4QAMATS;4MAPIQ;2BET WITH DAGESH;2GIMEL WITH DAGESH;
2DALET WITH DAGESH;2HE WITH MAPIQ;2VAV WITH DAGESH;2ZAYIN WITH DAGESH;=FB38;2TET WITH DAGESH;
2YOD WITH DAGESH;2FINAL KAF WITH DAGESH;2KAF WITH DAGESH;2LAMED WITH DAGESH;=FB3E;2MEM WITH DAGESH;
=FB40;2NUN WITH DAGESH;2SAMEKH WITH DAGESH;=FB43;2FINAL PE WITH DAGESH;2PE WITH DAGESH;=FB46;
2TSADI WITH DAGESH;2QOF WITH DAGESH;2RESH WITH DAGESH;2SHIN WITH DAGESH;2TAV WITH DAGESH;
2VAV WITH HOLAM;2BET WITH RAFE;2KAF WITH RAFE;2PE WITH RAFE;1LIGATURE ALEF LAMED;
0ARABIC LETTER ALEF WASLA ISOLATED FORM;4FINAL FORM;2BEEH ISOLATED FORM;3FINAL FORM;3INITIAL FORM;
3MEDIAL FORM;2PEH ISOLATED FORM;3FINAL FORM;3INITIAL FORM;3MEDIAL FORM;2BEHEH ISOLATED FORM;
3FINAL FORM;3INITIAL FORM;3MEDIAL FORM;2TTEHEH ISOLATED FORM;3FINAL FORM;3INITIAL FORM;3MEDIAL FORM;
2TEHEH ISOLATED FORM;3FINAL FORM;3INITIAL FORM;3MEDIAL FORM;2TTEH ISOLATED FORM;3FINAL FORM;
3INITIAL FORM;3MEDIAL FORM;2VEH ISOLATED FORM;3FINAL FORM;3INITIAL FORM;3MEDIAL FORM;
2PEHEH ISOLATED FORM;3FINAL FORM;3INITIAL FORM;3MEDIAL FORM;2DYEH ISOLATED FORM;3FINAL FORM;
3INITIAL FORM;3MEDIAL FORM;2NYEH ISOLATED FORM;3FINAL FORM;3INITIAL FORM;3MEDIAL FORM;
2TCHEH ISOLATED FORM;3FINAL FORM;3INITIAL FORM;3MEDIAL FORM;2TCHEHEH ISOLATED FORM;3FINAL FORM;
3INITIAL FORM;3MEDIAL FORM;2DDAHAL ISOLATED FORM;3FINAL FORM;2DAHAL ISOLATED FORM;3FINAL FORM;
2DUL ISOLATED FORM;3FINAL FORM;2DDAL ISOLATED FORM;3FINAL FORM;2JEH ISOLATED FORM;3FINAL FORM;
2RREH ISOLATED FORM;3FINAL FORM;2KEHEH ISOLATED FORM;3FINAL FORM;3INITIAL FORM;3MEDIAL FORM;
2GAF ISOLATED FORM;3FINAL FORM;3INITIAL FORM;3MEDIAL FORM;2GUEH ISOLATED FORM;3FINAL FORM;
3INITIAL FORM;3MEDIAL FORM;2NGOEH ISOLATED FORM;3FINAL FORM;3INITIAL FORM;3MEDIAL FORM;
2NOON GHUNNA ISOLATED FORM;4FINAL FORM;2RNOON ISOLATED FORM;3FINAL FORM;3INITIAL FORM;3MEDIAL FORM;
2HEH WITH YEH ABOVE ISOLATED FORM;6FINAL FORM;3GOAL ISOLATED FORM;4FINAL FORM;4INITIAL FORM;
4MEDIAL FORM;3DOACHASHMEE ISOLATED FORM;4FINAL FORM;4INITIAL FORM;4MEDIAL FORM;
2YEH BARREE ISOLATED FORM;4FINAL FORM;4WITH HAMZA ABOVE ISOLATED FORM;7FINAL FORM;1SYMBOL DOT ABOVE;
3BELOW;2TWO DOTS ABOVE;4BELOW;2THREE DOTS ABOVE;4BELOW;4POINTING DOWNWARDS ABOVE;6BELOW;
2FOUR DOTS ABOVE;4BELOW;2DOUBLE VERTICAL BAR BELOW;2TWO DOTS VERTICALLY ABOVE;5BELOW;2RING;
2SMALL TAH ABOVE;4BELOW;2WASLA ABOVE;=FBD3;1LETTER NG ISOLATED FORM;3FINAL FORM;3INITIAL FORM;
3MEDIAL FORM;2U ISOLATED FORM;3FINAL FORM;2OE ISOLATED FORM;3FINAL FORM;2YU ISOLATED FORM;
3FINAL FORM;2U WITH HAMZA ABOVE ISOLATED FORM;2VE ISOLATED FORM;3FINAL FORM;
2KIRGHIZ OE ISOLATED FORM;4FINAL FORM;3YU ISOLATED FORM;4FINAL FORM;2E ISOLATED FORM;3FINAL FORM;
3INITIAL FORM;3MEDIAL FORM;2UIGHUR KAZAKH KIRGHIZ ALEF MAKSURA INITIAL FORM;7MEDIAL FORM;
1LIGATURE YEH WITH HAMZA ABOVE WITH ALEF ISOLATED FORM;8FINAL FORM;7AE ISOLATED FORM;8FINAL FORM;
7WAW ISOLATED FORM;8FINAL FORM;7U ISOLATED FORM;8FINAL FORM;7OE ISOLATED FORM;8FINAL FORM;
7YU ISOLATED FORM;8FINAL FORM;7E ISOLATED FORM;8FINAL FORM;8INITIAL FORM;
2UIGHUR KIRGHIZ YEH WITH HAMZA ABOVE WITH ALEF MAKSURA ISOLATED FORM;9ALEF MAKSURA FINAL FORM;
9ALEF MAKSURA INITIAL FORM;1LETTER FARSI YEH ISOLATED FORM;4FINAL FORM;4INITIAL FORM;4MEDIAL FORM;
1LIGATURE YEH WITH HAMZA ABOVE WITH JEEM ISOLATED FORM;7HAH ISOLATED FORM;7MEEM ISOLATED FORM;
7ALEF MAKSURA ISOLATED FORM;7YEH ISOLATED FORM;2BEH WITH JEEM ISOLATED FORM;4HAH ISOLATED FORM;
4KHAH ISOLATED FORM;4MEEM ISOLATED FORM;4ALEF MAKSURA ISOLATED FORM;4YEH ISOLATED FORM;
2TEH WITH JEEM ISOLATED FORM;4HAH ISOLATED FORM;4KHAH ISOLATED FORM;4MEEM ISOLATED FORM;
4ALEF MAKSURA ISOLATED FORM;4YEH ISOLATED FORM;2THEH WITH JEEM ISOLATED FORM;4MEEM ISOLATED FORM;
4ALEF MAKSURA ISOLATED FORM;4YEH ISOLATED FORM;2JEEM WITH HAH ISOLATED FORM;4MEEM ISOLATED FORM;
2HAH WITH JEEM ISOLATED FORM;4MEEM ISOLATED FORM;2KHAH WITH JEEM ISOLATED FORM;4HAH ISOLATED FORM;
4MEEM ISOLATED FORM;2SEEN WITH JEEM ISOLATED FORM;4HAH ISOLATED FORM;4KHAH ISOLATED FORM;
4MEEM ISOLATED FORM;2SAD WITH HAH ISOLATED FORM;4MEEM ISOLATED FORM;2DAD WITH JEEM ISOLATED FORM;
4HAH ISOLATED FORM;4KHAH ISOLATED FORM;4MEEM ISOLATED FORM;2TAH WITH HAH ISOLATED FORM;
4MEEM ISOLATED FORM;2ZAH WITH MEEM ISOLATED FORM;2AIN WITH JEEM ISOLATED FORM;4MEEM ISOLATED FORM;
2GHAIN WITH JEEM ISOLATED FORM;4MEEM ISOLATED FORM;2FEH WITH JEEM ISOLATED FORM;4HAH ISOLATED FORM;
4KHAH ISOLATED FORM;4MEEM ISOLATED FORM;4ALEF MAKSURA ISOLATED FORM;4YEH ISOLATED FORM;
2QAF WITH HAH ISOLATED FORM;4MEEM ISOLATED FORM;4ALEF MAKSURA ISOLATED FORM;4YEH ISOLATED FORM;
2KAF WITH ALEF ISOLATED FORM;4JEEM ISOLATED FORM;4HAH ISOLATED FORM;4KHAH ISOLATED FORM;
4LAM ISOLATED FORM;4MEEM ISOLATED FORM;4ALEF MAKSURA ISOLATED FORM;4YEH ISOLATED FORM;
2LAM WITH JEEM ISOLATED FORM;4HAH ISOLATED FORM;4KHAH ISOLATED FORM;4MEEM ISOLATED FORM;
4ALEF MAKSURA ISOLATED FORM;4YEH ISOLATED FORM;2MEEM WITH JEEM ISOLATED FORM;4HAH ISOLATED FORM;
4KHAH ISOLATED FORM;4MEEM ISOLATED FORM;4ALEF MAKSURA ISOLATED FORM;4YEH ISOLATED FORM;
2NOON WITH JEEM ISOLATED FORM;4HAH ISOLATED FORM;4KHAH ISOLATED FORM;4MEEM ISOLATED FORM;
4ALEF MAKSURA ISOLATED FORM;4YEH ISOLATED FORM;2HEH WITH JEEM ISOLATED FORM;4MEEM ISOLATED FORM;
4ALEF MAKSURA ISOLATED FORM;4YEH ISOLATED FORM;2YEH WITH JEEM ISOLATED FORM;4HAH ISOLATED FORM;
4KHAH ISOLATED FORM;4MEEM ISOLATED FORM;4ALEF MAKSURA ISOLATED FORM;4YEH ISOLATED FORM;
2THAL WITH SUPERSCRIPT ALEF ISOLATED FORM;2REH WITH SUPERSCRIPT ALEF ISOLATED FORM;
2ALEF MAKSURA WITH SUPERSCRIPT ALEF ISOLATED FORM;2SHADDA WITH DAMMATAN ISOLATED FORM;
4KASRATAN ISOLATED FORM;4FATHA ISOLATED FORM;4DAMMA ISOLATED FORM;4KASRA ISOLATED FORM;
4SUPERSCRIPT ALEF ISOLATED FORM;2YEH WITH HAMZA ABOVE WITH REH FINAL FORM;7ZAIN FINAL FORM;
7MEEM FINAL FORM;7NOON FINAL FORM;7ALEF MAKSURA FINAL FORM;7YEH FINAL FORM;2BEH WITH REH FINAL FORM;
4ZAIN FINAL FORM;4MEEM FINAL FORM;4NOON FINAL FORM;4ALEF MAKSURA FINAL FORM;4YEH FINAL FORM;
2TEH WITH REH FINAL FORM;4ZAIN FINAL FORM;4MEEM FINAL FORM;4NOON FINAL FORM;
4ALEF MAKSURA FINAL FORM;4YEH FINAL FORM;2THEH WITH REH FINAL FORM;4ZAIN FINAL FORM;
4MEEM FINAL FORM;4NOON FINAL FORM;4ALEF MAKSURA FINAL FORM;4YEH FINAL FORM;
2FEH WITH ALEF MAKSURA FINAL FORM;4YEH FINAL FORM;2QAF WITH ALEF MAKSURA FINAL FORM;4YEH FINAL FORM;
2KAF WITH ALEF FINAL FORM;4LAM FINAL FORM;4MEEM FINAL FORM;4ALEF MAKSURA FINAL FORM;4YEH FINAL FORM;
2LAM WITH MEEM FINAL FORM;4ALEF MAKSURA FINAL FORM;4YEH FINAL FORM;2MEEM WITH ALEF FINAL FORM;
4MEEM FINAL FORM;2NOON WITH REH FINAL FORM;4ZAIN FINAL FORM;4MEEM FINAL FORM;4NOON FINAL FORM;
4ALEF MAKSURA FINAL FORM;4YEH FINAL FORM;2ALEF MAKSURA WITH SUPERSCRIPT ALEF FINAL FORM;
2YEH WITH REH FINAL FORM;4ZAIN FINAL FORM;4MEEM FINAL FORM;4NOON FINAL FORM;
4ALEF MAKSURA FINAL FORM;4YEH FINAL FORM;4HAMZA ABOVE WITH JEEM INITIAL FORM;7HAH INITIAL FORM;
7KHAH INITIAL FORM;7MEEM INITIAL FORM;7HEH INITIAL FORM;2BEH WITH JEEM INITIAL FORM;
4HAH INITIAL FORM;4KHAH INITIAL FORM;4MEEM INITIAL FORM;4HEH INITIAL FORM;
2TEH WITH JEEM INITIAL FORM;4HAH INITIAL FORM;4KHAH INITIAL FORM;4MEEM INITIAL FORM;
4HEH INITIAL FORM;2THEH WITH MEEM INITIAL FORM;2JEEM WITH HAH INITIAL FORM;4MEEM INITIAL FORM;
2HAH WITH JEEM INITIAL FORM;4MEEM INITIAL FORM;2KHAH WITH JEEM INITIAL FORM;4MEEM INITIAL FORM;
2SEEN WITH JEEM INITIAL FORM;4HAH INITIAL FORM;4KHAH INITIAL FORM;4MEEM INITIAL FORM;
2SAD WITH HAH INITIAL FORM;4KHAH INITIAL FORM;4MEEM INITIAL FORM;2DAD WITH JEEM INITIAL FORM;
4HAH INITIAL FORM;4KHAH INITIAL FORM;4MEEM INITIAL FORM;2TAH WITH HAH INITIAL FORM;
2ZAH WITH MEEM INITIAL FORM;2AIN WITH JEEM INITIAL FORM;4MEEM INITIAL FORM;
2GHAIN WITH JEEM INITIAL FORM;4MEEM INITIAL FORM;2FEH WITH JEEM INITIAL FORM;4HAH INITIAL FORM;
4KHAH INITIAL FORM;4MEEM INITIAL FORM;2QAF WITH HAH INITIAL FORM;4MEEM INITIAL FORM;
2KAF WITH JEEM INITIAL FORM;4HAH INITIAL FORM;4KHAH INITIAL FORM;4LAM INITIAL FORM;
4MEEM INITIAL FORM;2LAM WITH JEEM INITIAL FORM;4HAH INITIAL FORM;4KHAH INITIAL FORM;
4MEEM INITIAL FORM;4HEH INITIAL FORM;2MEEM WITH JEEM INITIAL FORM;4HAH INITIAL FORM;
4KHAH INITIAL FORM;4MEEM INITIAL FORM;2NOON WITH JEEM INITIAL FORM;4HAH INITIAL FORM;
4KHAH INITIAL FORM;4MEEM INITIAL FORM;4HEH INITIAL FORM;2HEH WITH JEEM INITIAL FORM;
4MEEM INITIAL FORM;4SUPERSCRIPT ALEF INITIAL FORM;2YEH WITH JEEM INITIAL FORM;4HAH INITIAL FORM;
4KHAH INITIAL FORM;4MEEM INITIAL FORM;4HEH INITIAL FORM;4HAMZA ABOVE WITH MEEM MEDIAL FORM;
7HEH MEDIAL FORM;2BEH WITH MEEM MEDIAL FORM;4HEH MEDIAL FORM;2TEH WITH MEEM MEDIAL FORM;
4HEH MEDIAL FORM;2THEH WITH MEEM MEDIAL FORM;4HEH MEDIAL FORM;2SEEN WITH MEEM MEDIAL FORM;
4HEH MEDIAL FORM;2SHEEN WITH MEEM MEDIAL FORM;4HEH MEDIAL FORM;2KAF WITH LAM MEDIAL FORM;
4MEEM MEDIAL FORM;2LAM WITH MEEM MEDIAL FORM;2NOON WITH MEEM MEDIAL FORM;4HEH MEDIAL FORM;
2YEH WITH MEEM MEDIAL FORM;4HEH MEDIAL FORM;2SHADDA WITH FATHA MEDIAL FORM;4DAMMA MEDIAL FORM;
4KASRA MEDIAL FORM;2TAH WITH ALEF MAKSURA ISOLATED FORM;4YEH ISOLATED FORM;
2AIN WITH ALEF MAKSURA ISOLATED FORM;4YEH ISOLATED FORM;2GHAIN WITH ALEF MAKSURA ISOLATED FORM;
4YEH ISOLATED FORM;2SEEN WITH ALEF MAKSURA ISOLATED FORM;4YEH ISOLATED FORM;
2SHEEN WITH ALEF MAKSURA ISOLATED FORM;4YEH ISOLATED FORM;2HAH WITH ALEF MAKSURA ISOLATED FORM;
4YEH ISOLATED FORM;2JEEM WITH ALEF MAKSURA ISOLATED FORM;4YEH ISOLATED FORM;
2KHAH WITH ALEF MAKSURA ISOLATED FORM;4YEH ISOLATED FORM;2SAD WITH ALEF MAKSURA ISOLATED FORM;
4YEH ISOLATED FORM;2DAD WITH ALEF MAKSURA ISOLATED FORM;4YEH ISOLATED FORM;
2SHEEN WITH JEEM ISOLATED FORM;4HAH ISOLATED FORM;4KHAH ISOLATED FORM;4MEEM ISOLATED FORM;
4REH ISOLATED FORM;2SEEN WITH REH ISOLATED FORM;2SAD WITH REH ISOLATED FORM;
2DAD WITH REH ISOLATED FORM;2TAH WITH ALEF MAKSURA FINAL FORM;4YEH FINAL FORM;
2AIN WITH ALEF MAKSURA FINAL FORM;4YEH FINAL FORM;2GHAIN WITH ALEF MAKSURA FINAL FORM;
4YEH FINAL FORM;2SEEN WITH ALEF MAKSURA FINAL FORM;4YEH FINAL FORM;
2SHEEN WITH ALEF MAKSURA FINAL FORM;4YEH FINAL FORM;2HAH WITH ALEF MAKSURA FINAL FORM;
4YEH FINAL FORM;2JEEM WITH ALEF MAKSURA FINAL FORM;4YEH FINAL FORM;
2KHAH WITH ALEF MAKSURA FINAL FORM;4YEH FINAL FORM;2SAD WITH ALEF MAKSURA FINAL FORM;
4YEH FINAL FORM;2DAD WITH ALEF MAKSURA FINAL FORM;4YEH FINAL FORM;2SHEEN WITH JEEM FINAL FORM;
4HAH FINAL FORM;4KHAH FINAL FORM;4MEEM FINAL FORM;4REH FINAL FORM;2SEEN WITH REH FINAL FORM;
2SAD WITH REH FINAL FORM;2DAD WITH REH FINAL FORM;2SHEEN WITH JEEM INITIAL FORM;4HAH INITIAL FORM;
4KHAH INITIAL FORM;4MEEM INITIAL FORM;2SEEN WITH HEH INITIAL FORM;2SHEEN WITH HEH INITIAL FORM;
2TAH WITH MEEM INITIAL FORM;2SEEN WITH JEEM MEDIAL FORM;4HAH MEDIAL FORM;4KHAH MEDIAL FORM;
2SHEEN WITH JEEM MEDIAL FORM;4HAH MEDIAL FORM;4KHAH MEDIAL FORM;2TAH WITH MEEM MEDIAL FORM;
2ZAH WITH MEEM MEDIAL FORM;2ALEF WITH FATHATAN FINAL FORM;5ISOLATED FORM;0ORNATE LEFT PARENTHESIS;
1RIGHT PARENTHESIS;0ARABIC LIGATURE RAHIMAHU ALLAAH;2RADI ALLAAHU ANH;4ANHAA;4ANHUM;4ANHUMAA;
4ANHUNNA;2SALLALLAAHU ALAYHI WA-AALIH;2ALAYHI AS-SALAAM;2ALAYHIM AS-SALAAM;2ALAYHIMAA AS-SALAAM;
2ALAYHI AS-SALAATU WAS-SALAAM;2QUDDISA SIRRAH;2SALLALLAHU ALAYHI WAAALIHEE WA-SALLAM;
2ALAYHAA AS-SALAAM;2TABAARAKA WA-TAAALAA;2RAHIMAHUM ALLAAH;2TEH WITH JEEM WITH MEEM INITIAL FORM;
4HAH WITH JEEM FINAL FORM;7INITIAL FORM;6MEEM INITIAL FORM;4KHAH WITH MEEM INITIAL FORM;
4MEEM WITH JEEM INITIAL FORM;6HAH INITIAL FORM;6KHAH INITIAL FORM;
2JEEM WITH MEEM WITH HAH FINAL FORM;7INITIAL FORM;2HAH WITH MEEM WITH YEH FINAL FORM;
6ALEF MAKSURA FINAL FORM;2SEEN WITH HAH WITH JEEM INITIAL FORM;4JEEM WITH HAH INITIAL FORM;
6ALEF MAKSURA FINAL FORM;4MEEM WITH HAH FINAL FORM;7INITIAL FORM;6JEEM INITIAL FORM;
6MEEM FINAL FORM;7INITIAL FORM;2SAD WITH HAH WITH HAH FINAL FORM;7INITIAL FORM;
4MEEM WITH MEEM FINAL FORM;2SHEEN WITH HAH WITH MEEM FINAL FORM;7INITIAL FORM;
4JEEM WITH YEH FINAL FORM;4MEEM WITH KHAH FINAL FORM;7INITIAL FORM;6MEEM FINAL FORM;7INITIAL FORM;
2DAD WITH HAH WITH ALEF MAKSURA FINAL FORM;4KHAH WITH MEEM FINAL FORM;7INITIAL FORM;
2TAH WITH MEEM WITH HAH FINAL FORM;7INITIAL FORM;6MEEM INITIAL FORM;6YEH FINAL FORM;
2AIN WITH JEEM WITH MEEM FINAL FORM;4MEEM WITH MEEM FINAL FORM;7INITIAL FORM;
6ALEF MAKSURA FINAL FORM;2GHAIN WITH MEEM WITH MEEM FINAL FORM;6YEH FINAL FORM;
6ALEF MAKSURA FINAL FORM;2FEH WITH KHAH WITH MEEM FINAL FORM;7INITIAL FORM;
2QAF WITH MEEM WITH HAH FINAL FORM;6MEEM FINAL FORM;2LAM WITH HAH WITH MEEM FINAL FORM;
6YEH FINAL FORM;6ALEF MAKSURA FINAL FORM;4JEEM WITH JEEM INITIAL FORM;7FINAL FORM;
4KHAH WITH MEEM FINAL FORM;7INITIAL FORM;4MEEM WITH HAH FINAL FORM;7INITIAL FORM;
2MEEM WITH HAH WITH JEEM INITIAL FORM;6MEEM INITIAL FORM;6YEH FINAL FORM;
4JEEM WITH HAH INITIAL FORM;6MEEM INITIAL FORM;4KHAH WITH JEEM INITIAL FORM;6MEEM INITIAL FORM;
=FD92;4JEEM WITH KHAH INITIAL FORM;2HEH WITH MEEM WITH JEEM INITIAL FORM;6MEEM INITIAL FORM;
2NOON WITH HAH WITH MEEM INITIAL FORM;6ALEF MAKSURA FINAL FORM;4JEEM WITH MEEM FINAL FORM;
7INITIAL FORM;6ALEF MAKSURA FINAL FORM;4MEEM WITH YEH FINAL FORM;6ALEF MAKSURA FINAL FORM;
2YEH WITH MEEM WITH MEEM FINAL FORM;7INITIAL FORM;2BEH WITH KHAH WITH YEH FINAL FORM;
2TEH WITH JEEM WITH YEH FINAL FORM;6ALEF MAKSURA FINAL FORM;4KHAH WITH YEH FINAL FORM;
6ALEF MAKSURA FINAL FORM;4MEEM WITH YEH FINAL FORM;6ALEF MAKSURA FINAL FORM;
2JEEM WITH MEEM WITH YEH FINAL FORM;4HAH WITH ALEF MAKSURA FINAL FORM;
4MEEM WITH ALEF MAKSURA FINAL FORM;2SEEN WITH KHAH WITH ALEF MAKSURA FINAL FORM;
2SAD WITH HAH WITH YEH FINAL FORM;2SHEEN WITH HAH WITH YEH FINAL FORM;
2DAD WITH HAH WITH YEH FINAL FORM;2LAM WITH JEEM WITH YEH FINAL FORM;4MEEM WITH YEH FINAL FORM;
2YEH WITH HAH WITH YEH FINAL FORM;4JEEM WITH YEH FINAL FORM;4MEEM WITH YEH FINAL FORM;
2MEEM WITH MEEM WITH YEH FINAL FORM;2QAF WITH MEEM WITH YEH FINAL FORM;
2NOON WITH HAH WITH YEH FINAL FORM;2QAF WITH MEEM WITH HAH INITIAL FORM;
2LAM WITH HAH WITH MEEM INITIAL FORM;2AIN WITH MEEM WITH YEH FINAL FORM;
2KAF WITH MEEM WITH YEH FINAL FORM;2NOON WITH JEEM WITH HAH INITIAL FORM;
2MEEM WITH KHAH WITH YEH FINAL FORM;2LAM WITH JEEM WITH MEEM INITIAL FORM;
2KAF WITH MEEM WITH MEEM FINAL FORM;2LAM WITH JEEM WITH MEEM FINAL FORM;
2NOON WITH JEEM WITH HAH FINAL FORM;2JEEM WITH HAH WITH YEH FINAL FORM;
2HAH WITH JEEM WITH YEH FINAL FORM;2MEEM WITH JEEM WITH YEH FINAL FORM;
2FEH WITH MEEM WITH YEH FINAL FORM;2BEH WITH HAH WITH YEH FINAL FORM;
2KAF WITH MEEM WITH MEEM INITIAL FORM;2AIN WITH JEEM WITH MEEM INITIAL FORM;
2SAD WITH MEEM WITH MEEM INITIAL FORM;2SEEN WITH KHAH WITH YEH FINAL FORM;
2NOON WITH JEEM WITH YEH FINAL FORM;=FDCF;2SALAAMUHU ALAYNAA;=FDF0;
2SALLA USED AS KORANIC STOP SIGN ISOLATED FORM;2QALA USED AS KORANIC STOP SIGN ISOLATED FORM;
2ALLAH ISOLATED FORM;2AKBAR ISOLATED FORM;2MOHAMMAD ISOLATED FORM;2SALAM ISOLATED FORM;
2RASOUL ISOLATED FORM;2ALAYHE ISOLATED FORM;2WASALLAM ISOLATED FORM;2SALLA ISOLATED FORM;
2SALLALLAHOU ALAYHE WASALLAM;2JALLAJALALOUHOU;0RIAL SIGN;
0ARABIC LIGATURE BISMILLAH AR-RAHMAN AR-RAHEEM;2SUBHAANAHU WA TAAALAA;2AZZA WA JALL;=FE70;
1FATHATAN ISOLATED FORM;1TATWEEL WITH FATHATAN ABOVE;1DAMMATAN ISOLATED FORM;1TAIL FRAGMENT;
1KASRATAN ISOLATED FORM;=FE76;1FATHA ISOLATED FORM;2MEDIAL FORM;1DAMMA ISOLATED FORM;2MEDIAL FORM;
1KASRA ISOLATED FORM;2MEDIAL FORM;1SHADDA ISOLATED FORM;2MEDIAL FORM;1SUKUN ISOLATED FORM;
2MEDIAL FORM;1LETTER HAMZA ISOLATED FORM;2ALEF WITH MADDA ABOVE ISOLATED FORM;6FINAL FORM;
4HAMZA ABOVE ISOLATED FORM;6FINAL FORM;2WAW WITH HAMZA ABOVE ISOLATED FORM;6FINAL FORM;
2ALEF WITH HAMZA BELOW ISOLATED FORM;6FINAL FORM;2YEH WITH HAMZA ABOVE ISOLATED FORM;6FINAL FORM;
6INITIAL FORM;6MEDIAL FORM;2ALEF ISOLATED FORM;3FINAL FORM;2BEH ISOLATED FORM;3FINAL FORM;
3INITIAL FORM;3MEDIAL FORM;2TEH MARBUTA ISOLATED FORM;4FINAL FORM;3ISOLATED FORM;3FINAL FORM;
3INITIAL FORM;3MEDIAL FORM;2THEH ISOLATED FORM;3FINAL FORM;3INITIAL FORM;3MEDIAL FORM;
2JEEM ISOLATED FORM;3FINAL FORM;3INITIAL FORM;3MEDIAL FORM;2HAH ISOLATED FORM;3FINAL FORM;
3INITIAL FORM;3MEDIAL FORM;2KHAH ISOLATED FORM;3FINAL FORM;3INITIAL FORM;3MEDIAL FORM;
2DAL ISOLATED FORM;3FINAL FORM;2THAL ISOLATED FORM;3FINAL FORM;2REH ISOLATED FORM;3FINAL FORM;
2ZAIN ISOLATED FORM;3FINAL FORM;2SEEN ISOLATED FORM;3FINAL FORM;3INITIAL FORM;3MEDIAL FORM;
2SHEEN ISOLATED FORM;3FINAL FORM;3INITIAL FORM;3MEDIAL FORM;2SAD ISOLATED FORM;3FINAL FORM;
3INITIAL FORM;3MEDIAL FORM;2DAD ISOLATED FORM;3FINAL FORM;3INITIAL FORM;3MEDIAL FORM;
2TAH ISOLATED FORM;3FINAL FORM;3INITIAL FORM;3MEDIAL FORM;2ZAH ISOLATED FORM;3FINAL FORM;
3INITIAL FORM;3MEDIAL FORM;2AIN ISOLATED FORM;3FINAL FORM;3INITIAL FORM;3MEDIAL FORM;
2GHAIN ISOLATED FORM;3FINAL FORM;3INITIAL FORM;3MEDIAL FORM;2FEH ISOLATED FORM;3FINAL FORM;
3INITIAL FORM;3MEDIAL FORM;2QAF ISOLATED FORM;3FINAL FORM;3INITIAL FORM;3MEDIAL FORM;
2KAF ISOLATED FORM;3FINAL FORM;3INITIAL FORM;3MEDIAL FORM;2LAM ISOLATED FORM;3FINAL FORM;
3INITIAL FORM;3MEDIAL FORM;2MEEM ISOLATED FORM;3FINAL FORM;3INITIAL FORM;3MEDIAL FORM;
2NOON ISOLATED FORM;3FINAL FORM;3INITIAL FORM;3MEDIAL FORM;2HEH ISOLATED FORM;3FINAL FORM;
3INITIAL FORM;3MEDIAL FORM;2WAW ISOLATED FORM;3FINAL FORM;2ALEF MAKSURA ISOLATED FORM;4FINAL FORM;
2YEH ISOLATED FORM;3FINAL FORM;3INITIAL FORM;3MEDIAL FORM;
1LIGATURE LAM WITH ALEF WITH MADDA ABOVE ISOLATED FORM;8FINAL FORM;6HAMZA ABOVE ISOLATED FORM;
8FINAL FORM;7BELOW ISOLATED FORM;8FINAL FORM;5ISOLATED FORM;5FINAL FORM;=10800;0CYPRIOT SYLLABLE A;
2E;2I;2O;2U;2JA;=10808;2JO;=1080A;2KA;2KE;2KI;2KO;2KU;2LA;2LE;2LI;2LO;2LU;2MA;2ME;2MI;2MO;2MU;2NA;
2NE;2NI;2NO;2NU;2PA;2PE;2PI;2PO;2PU;2RA;2RE;2RI;2RO;2RU;2SA;2SE;2SI;2SO;2SU;2TA;2TE;2TI;2TO;2TU;2WA;
2WE;2WI;2WO;=10837;2XA;2XE;=1083C;2ZA;=1083F;2ZO;0IMPERIAL ARAMAIC LETTER ALEPH;3BETH;3GIMEL;
3DALETH;3HE;3WAW;3ZAYIN;3HETH;3TETH;3YODH;3KAPH;3LAMEDH;3MEM;3NUN;3SAMEKH;3AYIN;3PE;3SADHE;3QOPH;
3RESH;3SHIN;3TAW;=10857;2SECTION SIGN;2NUMBER ONE;3TWO;3THREE;3TEN;3TWENTY;3ONE HUNDRED;4THOUSAND;
3TEN THOUSAND;0PALMYRENE LETTER ALEPH;2BETH;2GIMEL;2DALETH;2HE;2WAW;2ZAYIN;2HETH;2TETH;2YODH;2KAPH;
2LAMEDH;2MEM;2FINAL NUN;2NUN;2SAMEKH;2AYIN;2PE;2SADHE;2QOPH;2RESH;2SHIN;2TAW;1LEFT-POINTING FLEURON;
1RIGHT-POINTING FLEURON;1NUMBER ONE;2TWO;2THREE;2FOUR;2FIVE;2TEN;2TWENTY;
0NABATAEAN LETTER FINAL ALEPH;2ALEPH;2FINAL BETH;2BETH;2GIMEL;2DALETH;2FINAL HE;2HE;2WAW;2ZAYIN;
2HETH;2TETH;2FINAL YODH;2YODH;2FINAL KAPH;2KAPH;2FINAL LAMEDH;2LAMEDH;2FINAL MEM;2MEM;2FINAL NUN;
2NUN;2SAMEKH;2AYIN;2PE;2SADHE;2QOPH;2RESH;2FINAL SHIN;2SHIN;2TAW;=108A7;1NUMBER ONE;2TWO;2THREE;
2FOUR;1CRUCIFORM NUMBER FOUR;1NUMBER FIVE;2TEN;2TWENTY;2ONE HUNDRED;=108E0;0HATRAN LETTER ALEPH;
2BETH;2GIMEL;2DALETH-RESH;2HE;2WAW;2ZAYN;2HETH;2TETH;2YODH;2KAPH;2LAMEDH;2MEM;2NUN;2SAMEKH;2AYN;2PE;
2SADHE;2QOPH;=108F4;2SHIN;2TAW;=108FB;1NUMBER ONE;2FIVE;2TEN;2TWENTY;2ONE HUNDRED;
0PHOENICIAN LETTER ALF;2BET;2GAML;2DELT;2HE;2WAU;2ZAI;2HET;2TET;2YOD;2KAF;2LAMD;2MEM;2NUN;2SEMK;
2AIN;2PE;2SADE;2QOF;2ROSH;2SHIN;2TAU;1NUMBER ONE;2TEN;2TWENTY;2ONE HUNDRED;2TWO;2THREE;=1091F;
1WORD SEPARATOR;0LYDIAN LETTER A;2B;2G;2D;2E;2V;2I;2Y;2K;2L;2M;2N;2O;2R;2SS;2T;2U;2F;2Q;2S;2TT;2AN;
2EN;2LY;2NN;2C;=1093F;1TRIANGULAR MARK;=10980;0MEROITIC HIEROGLYPHIC LETTER A;3E;3I;3O;3YA;3WA;3BA;
3BA-2;3PA;3MA;3NA;3NA-2;3NE;3NE-2;3RA;3RA-2;3LA;3KHA;3HHA;3SA;3SA-2;3SE;3KA;3QA;3TA;3TA-2;3TE;3TE-2;
3TO;3DA;2SYMBOL VIDJ;3VIDJ-2;1CURSIVE LETTER A;3E;3I;3O;3YA;3WA;3BA;3PA;3MA;3NA;3NE;3RA;3LA;3KHA;
3HHA;3SA;3ARCHAIC SA;3SE;3KA;3QA;3TA;3TE;3TO;3DA;=109BC;2FRACTION ELEVEN TWELFTHS;3ONE HALF;
2LOGOGRAM RMT;3IMN;2NUMBER ONE;3TWO;3THREE;3FOUR;3FIVE;3SIX;3SEVEN;3EIGHT;3NINE;3TEN;3TWENTY;
3THIRTY;3FORTY;3FIFTY;3SIXTY;3SEVENTY;=109D2;3ONE HUNDRED;3TWO HUNDRED;3THREE HUNDRED;3FOUR HUNDRED;
3FIVE HUNDRED;3SIX HUNDRED;3SEVEN HUNDRED;3EIGHT HUNDRED;3NINE HUNDRED;3ONE THOUSAND;3TWO THOUSAND;
3THREE THOUSAND;3FOUR THOUSAND;3FIVE THOUSAND;3SIX THOUSAND;3SEVEN THOUSAND;3EIGHT THOUSAND;
3NINE THOUSAND;3TEN THOUSAND;3TWENTY THOUSAND;3THIRTY THOUSAND;3FORTY THOUSAND;3FIFTY THOUSAND;
3SIXTY THOUSAND;3SEVENTY THOUSAND;3EIGHTY THOUSAND;3NINETY THOUSAND;3ONE HUNDRED THOUSAND;
3TWO HUNDRED THOUSAND;3THREE HUNDRED THOUSAND;3FOUR HUNDRED THOUSAND;3FIVE HUNDRED THOUSAND;
3SIX HUNDRED THOUSAND;3SEVEN HUNDRED THOUSAND;3EIGHT HUNDRED THOUSAND;3NINE HUNDRED THOUSAND;
2FRACTION ONE TWELFTH;3TWO TWELFTHS;3THREE TWELFTHS;3FOUR TWELFTHS;3FIVE TWELFTHS;3SIX TWELFTHS;
3SEVEN TWELFTHS;3EIGHT TWELFTHS;3NINE TWELFTHS;3TEN TWELFTHS;0KHAROSHTHI LETTER A;1VOWEL SIGN I;3U;
3VOCALIC R;=10A05;3E;3O;=10A0C;2LENGTH MARK;1SIGN DOUBLE RING BELOW;2ANUSVARA;2VISARGA;1LETTER KA;
2KHA;2GA;2GHA;=10A15;2CA;2CHA;2JA;=10A19;2NYA;2TTA;2TTHA;2DDA;2DDHA;2NNA;2TA;2THA;2DA;2DHA;2NA;2PA;
2PHA;2BA;2BHA;2MA;2YA;2RA;2LA;2VA;2SHA;2SSA;2SA;2ZA;2HA;2KKA;2TTTHA;2TTTA;2VHA;=10A38;
1SIGN BAR ABOVE;2CAUDA;2DOT BELOW;=10A3F;1VIRAMA;1DIGIT ONE;2TWO;2THREE;2FOUR;1NUMBER TEN;2TWENTY;
2ONE HUNDRED;3THOUSAND;1FRACTION ONE HALF;=10A50;1PUNCTUATION DOT;2SMALL CIRCLE;2CIRCLE;
2CRESCENT BAR;2MANGALAM;2LOTUS;2DANDA;2DOUBLE DANDA;2LINES;=10A60;0OLD SOUTH ARABIAN LETTER HE;
4LAMEDH;4HETH;4MEM;4QOPH;4WAW;4SHIN;4RESH;4BETH;4TAW;4SAT;4KAPH;4NUN;4KHETH;4SADHE;4SAMEKH;4FE;
4ALEF;4AYN;4DHADHE;4GIMEL;4DALETH;4GHAYN;4TETH;4ZAYN;4DHALETH;4YODH;4THAW;4THETH;3NUMBER ONE;4FIFTY;
3NUMERIC INDICATOR;1NORTH ARABIAN LETTER HEH;4LAM;4HAH;4MEEM;4QAF;4WAW;4ES-2;4REH;4BEH;4TEH;4ES-1;
4KAF;4NOON;4KHAH;4SAD;4ES-3;4FEH;4ALEF;4AIN;4DAD;4GEEM;4DAL;4GHAIN;4TAH;4ZAIN;4THAL;4YEH;4THEH;4ZAH;
3NUMBER ONE;4TEN;4TWENTY;=10AC0;0MANICHAEAN LETTER ALEPH;2BETH;2BHETH;2GIMEL;2GHIMEL;2DALETH;2HE;
2WAW;1SIGN UD;1LETTER ZAYIN;2ZHAYIN;2JAYIN;2JHAYIN;2HETH;2TETH;2YODH;2KAPH;2XAPH;2KHAPH;2LAMEDH;
2DHAMEDH;2THAMEDH;2MEM;2NUN;2SAMEKH;2AYIN;2AAYIN;2PE;2FE;2SADHE;2QOPH;2XOPH;2QHOPH;2RESH;2SHIN;
2SSHIN;2TAW;1ABBREVIATION MARK ABOVE;3BELOW;=10AEB;1NUMBER ONE;2FIVE;2TEN;2TWENTY;2ONE HUNDRED;
1PUNCTUATION STAR;2FLEURON;2DOUBLE DOT WITHIN DOT;2DOT WITHIN DOT;2DOT;2TWO DOTS;2LINE FILLER;
=10B00;0AVESTAN LETTER A;2AA;2AO;2AAO;2AN;2AAN;2AE;2AEE;2E;2EE;2O;2OO;2I;2II;2U;2UU;2KE;2XE;2XYE;
2XVE;2GE;2GGE;2GHE;2CE;2JE;2TE;2THE;2DE;2DHE;2TTE;2PE;2FE;2BE;2BHE;2NGE;2NGYE;2NGVE;2NE;2NYE;2NNE;
2ME;2HME;2YYE;2YE;2VE;2RE;2LE;2SE;2ZE;2SHE;2ZHE;2SHYE;2SSHE;2HE;=10B39;1ABBREVIATION MARK;
0TINY TWO DOTS OVER ONE DOT PUNCTUATION;0SMALL TWO DOTS OVER ONE DOT PUNCTUATION;
0LARGE TWO DOTS OVER ONE DOT PUNCTUATION;1ONE DOT OVER TWO DOTS PUNCTUATION;
1TWO RINGS OVER ONE RING PUNCTUATION;1ONE RING OVER TWO RINGS PUNCTUATION;
0INSCRIPTIONAL PARTHIAN LETTER ALEPH;3BETH;3GIMEL;3DALETH;3HE;3WAW;3ZAYIN;3HETH;3TETH;3YODH;3KAPH;
3LAMEDH;3MEM;3NUN;3SAMEKH;3AYIN;3PE;3SADHE;3QOPH;3RESH;3SHIN;3TAW;=10B58;2NUMBER ONE;3TWO;3THREE;
3FOUR;3TEN;3TWENTY;3ONE HUNDRED;4THOUSAND;1PAHLAVI LETTER ALEPH;3BETH;3GIMEL;3DALETH;3HE;
3WAW-AYIN-RESH;3ZAYIN;3HETH;3TETH;3YODH;3KAPH;3LAMEDH;3MEM-QOPH;3NUN;3SAMEKH;3PE;3SADHE;3SHIN;3TAW;
=10B78;2NUMBER ONE;3TWO;3THREE;3FOUR;3TEN;3TWENTY;3ONE HUNDRED;4THOUSAND;
0PSALTER PAHLAVI LETTER ALEPH;3BETH;3GIMEL;3DALETH;3HE;3WAW-AYIN-RESH;3ZAYIN;3HETH;3YODH;3KAPH;
3LAMEDH;3MEM-QOPH;3NUN;3SAMEKH;3PE;3SADHE;3SHIN;3TAW;=10B99;2SECTION MARK;2TURNED SECTION MARK;
2FOUR DOTS WITH CROSS;5DOT;=10BA9;2NUMBER ONE;3TWO;3THREE;3FOUR;3TEN;3TWENTY;3ONE HUNDRED;=10C00;
0OLD TURKIC LETTER ORKHON A;3YENISEI A;4AE;3ORKHON I;3YENISEI I;4E;3ORKHON O;4OE;3YENISEI OE;
3ORKHON AB;3YENISEI AB;3ORKHON AEB;3YENISEI AEB;3ORKHON AG;3YENISEI AG;3ORKHON AEG;3YENISEI AEG;
3ORKHON AD;3YENISEI AD;3ORKHON AED;4EZ;3YENISEI EZ;3ORKHON AY;3YENISEI AY;3ORKHON AEY;3YENISEI AEY;
3ORKHON AEK;3YENISEI AEK;3ORKHON OEK;3YENISEI OEK;3ORKHON AL;3YENISEI AL;3ORKHON AEL;4ELT;4EM;4AN;
4AEN;3YENISEI AEN;3ORKHON ENT;3YENISEI ENT;3ORKHON ENC;3YENISEI ENC;3ORKHON ENY;3YENISEI ENY;4ANG;
3ORKHON ENG;3YENISEI AENG;3ORKHON EP;4OP;4IC;4EC;3YENISEI EC;3ORKHON AQ;3YENISEI AQ;3ORKHON IQ;
3YENISEI IQ;3ORKHON OQ;3YENISEI OQ;3ORKHON AR;3YENISEI AR;3ORKHON AER;4AS;4AES;4ASH;3YENISEI ASH;
3ORKHON ESH;3YENISEI ESH;3ORKHON AT;3YENISEI AT;3ORKHON AET;3YENISEI AET;3ORKHON OT;4BASH;=10C80;
1HUNGARIAN CAPITAL LETTER A;4AA;4EB;4AMB;4EC;4ENC;4ECS;4ED;4AND;4E;4CLOSE E;4EE;4EF;4EG;4EGY;4EH;4I;
4II;4EJ;4EK;4AK;4UNK;4EL;4ELY;4EM;4EN;4ENY;4O;4OO;4NIKOLSBURG OE;4RUDIMENTA OE;4OEE;4EP;4EMP;4ER;
4SHORT ER;4ES;4ESZ;4ET;4ENT;4ETY;4ECH;4U;4UU;4NIKOLSBURG UE;4RUDIMENTA UE;4EV;4EZ;4EZS;
4ENT-SHAPED SIGN;4US;=10CC0;2SMALL LETTER A;4AA;4EB;4AMB;4EC;4ENC;4ECS;4ED;4AND;4E;4CLOSE E;4EE;4EF;
4EG;4EGY;4EH;4I;4II;4EJ;4EK;4AK;4UNK;4EL;4ELY;4EM;4EN;4ENY;4O;4OO;4NIKOLSBURG OE;4RUDIMENTA OE;4OEE;
4EP;4EMP;4ER;4SHORT ER;4ES;4ESZ;4ET;4ENT;4ETY;4ECH;4U;4UU;4NIKOLSBURG UE;4RUDIMENTA UE;4EV;4EZ;4EZS;
4ENT-SHAPED SIGN;4US;=10CFA;2NUMBER ONE;3FIVE;3TEN;3FIFTY;3ONE HUNDRED;4THOUSAND;
0HANIFI ROHINGYA LETTER A;3BA;3PA;3TA;3TTA;3JA;3CA;3HA;3KHA;3FA;3DA;3DDA;3RA;3RRA;3ZA;3SA;3SHA;3KA;
3GA;3LA;3MA;3NA;3WA;3KINNA WA;3YA;3KINNA YA;3NGA;3NYA;3VA;2VOWEL A;3I;3U;3E;3O;2MARK SAKIN;
3NA KHONNA;2SIGN HARBAHAY;3TAHALA;3TANA;3TASSI;=10D30;2DIGIT ZERO;3ONE;3TWO;3THREE;3FOUR;3FIVE;3SIX;
3SEVEN;3EIGHT;3NINE;=10E60;0RUMI DIGIT ONE;2TWO;2THREE;2FOUR;2FIVE;2SIX;2SEVEN;2EIGHT;2NINE;
1NUMBER TEN;2TWENTY;2THIRTY;2FORTY;2FIFTY;2SIXTY;2SEVENTY;2EIGHTY;2NINETY;2ONE HUNDRED;2TWO HUNDRED;
2THREE HUNDRED;2FOUR HUNDRED;2FIVE HUNDRED;2SIX HUNDRED;2SEVEN HUNDRED;2EIGHT HUNDRED;2NINE HUNDRED;
1FRACTION ONE HALF;3QUARTER;3THIRD;2TWO THIRDS;=10E80;0YEZIDI LETTER ELIF;2BE;2PE;2PHE;2THE;2SE;
2CIM;2CHIM;2CHHIM;2HHA;2XA;2DAL;2ZAL;2RA;2RHA;2ZA;2JA;2SIN;2SHIN;2SAD;2DAD;2TA;2ZE;2EYN;2XHEYN;2FA;
2VA;3ALTERNATE FORM;2QAF;2KAF;2KHAF;2GAF;2LAM;2MIM;2NUN;2UM;2WAW;2OW;2EW;2HAY;2YOT;2ET;=10EAB;
1COMBINING HAMZA MARK;2MADDA MARK;1HYPHENATION MARK;=10EB0;1LETTER LAM WITH DOT ABOVE;
2YOT WITH CIRCUMFLEX ABOVE;=10F00;0OLD SOGDIAN LETTER ALEPH;3FINAL ALEPH;3BETH;3FINAL BETH;3GIMEL;
3HE;3FINAL HE;3WAW;3ZAYIN;3HETH;3YODH;3KAPH;3LAMEDH;3MEM;3NUN;3FINAL NUN;5WITH VERTICAL TAIL;
3SAMEKH;3AYIN;3ALTERNATE AYIN;3PE;3SADHE;3FINAL SADHE;5WITH VERTICAL TAIL;3RESH-AYIN-DALETH;3SHIN;
3TAW;3FINAL TAW;5WITH VERTICAL TAIL;2NUMBER ONE;3TWO;3THREE;3FOUR;3FIVE;3TEN;3TWENTY;3THIRTY;
3ONE HUNDRED;2FRACTION ONE HALF;2LIGATURE AYIN-DALETH;=10F30;0SOGDIAN LETTER ALEPH;2BETH;2GIMEL;2HE;
2WAW;2ZAYIN;2HETH;2YODH;2KAPH;2LAMEDH;2MEM;2NUN;2SAMEKH;2AYIN;2PE;2SADHE;2RESH-AYIN;2SHIN;2TAW;
2FETH;2LESH;1INDEPENDENT SHIN;1COMBINING DOT BELOW;2TWO DOTS BELOW;2DOT ABOVE;2TWO DOTS ABOVE;
2CURVE ABOVE;3BELOW;2HOOK ABOVE;3BELOW;2LONG HOOK BELOW;2RESH BELOW;2STROKE BELOW;1NUMBER ONE;2TEN;
2TWENTY;2ONE HUNDRED;1PUNCTUATION TWO VERTICAL BARS;5WITH DOTS;2CIRCLE WITH DOT;
2TWO CIRCLES WITH DOTS;2HALF CIRCLE WITH DOT;=10F70;0OLD UYGHUR LETTER ALEPH;3BETH;3GIMEL-HETH;3WAW;
3ZAYIN;3FINAL HETH;3YODH;3KAPH;3LAMEDH;3MEM;3NUN;3SAMEKH;3PE;3SADHE;3RESH;3SHIN;3TAW;3LESH;
2COMBINING DOT ABOVE;4BELOW;3TWO DOTS ABOVE;5BELOW;2PUNCTUATION BAR;3TWO BARS;4DOTS;3FOUR DOTS;
=10FB0;0CHORASMIAN LETTER ALEPH;2SMALL ALEPH;2BETH;2GIMEL;2DALETH;2HE;2WAW;2CURLED WAW;2ZAYIN;2HETH;
2YODH;2KAPH;2LAMEDH;2MEM;2NUN;2SAMEKH;2AYIN;2PE;2RESH;2SHIN;2TAW;1NUMBER ONE;2TWO;2THREE;2FOUR;2TEN;
2TWENTY;2ONE HUNDRED;=10FE0;0ELYMAIC LETTER ALEPH;2BETH;2GIMEL;2DALETH;2HE;2WAW;2ZAYIN;2HETH;2TETH;
2YODH;2KAPH;2LAMEDH;2MEM;2NUN;2SAMEKH;2AYIN;2PE;2SADHE;2QOPH;2RESH;2SHIN;2TAW;1LIGATURE ZAYIN-YODH;
=1EC71;0INDIC SIYAQ NUMBER ONE;3TWO;3THREE;3FOUR;3FIVE;3SIX;3SEVEN;3EIGHT;3NINE;3TEN;3TWENTY;
3THIRTY;3FORTY;3FIFTY;3SIXTY;3SEVENTY;3EIGHTY;3NINETY;3ONE HUNDRED;3TWO HUNDRED;3THREE HUNDRED;
3FOUR HUNDRED;3FIVE HUNDRED;3SIX HUNDRED;3SEVEN HUNDRED;3EIGHT HUNDRED;3NINE HUNDRED;3ONE THOUSAND;
3TWO THOUSAND;3THREE THOUSAND;3FOUR THOUSAND;3FIVE THOUSAND;3SIX THOUSAND;3SEVEN THOUSAND;
3EIGHT THOUSAND;3NINE THOUSAND;3TEN THOUSAND;3TWENTY THOUSAND;3THIRTY THOUSAND;3FORTY THOUSAND;
3FIFTY THOUSAND;3SIXTY THOUSAND;3SEVENTY THOUSAND;3EIGHTY THOUSAND;3NINETY THOUSAND;3LAKH;3LAKHAN;
2LAKH MARK;2NUMBER KAROR;3KARORAN;3PREFIXED ONE;4TWO;4THREE;4FOUR;4FIVE;4SIX;4SEVEN;4EIGHT;4NINE;
2PLACEHOLDER;2FRACTION ONE QUARTER;4HALF;3THREE QUARTERS;2RUPEE MARK;2NUMBER ALTERNATE ONE;4TWO;
4TEN THOUSAND;2ALTERNATE LAKH MARK;=1ED01;0OTTOMAN SIYAQ NUMBER ONE;3TWO;3THREE;3FOUR;3FIVE;3SIX;
3SEVEN;3EIGHT;3NINE;3TEN;3TWENTY;3THIRTY;3FORTY;3FIFTY;3SIXTY;3SEVENTY;3EIGHTY;3NINETY;3ONE HUNDRED;
3TWO HUNDRED;3THREE HUNDRED;3FOUR HUNDRED;3FIVE HUNDRED;3SIX HUNDRED;3SEVEN HUNDRED;3EIGHT HUNDRED;
3NINE HUNDRED;3ONE THOUSAND;3TWO THOUSAND;3THREE THOUSAND;3FOUR THOUSAND;3FIVE THOUSAND;
3SIX THOUSAND;3SEVEN THOUSAND;3EIGHT THOUSAND;3NINE THOUSAND;3TEN THOUSAND;3TWENTY THOUSAND;
3THIRTY THOUSAND;3FORTY THOUSAND;3FIFTY THOUSAND;3SIXTY THOUSAND;3SEVENTY THOUSAND;3EIGHTY THOUSAND;
3NINETY THOUSAND;2MARRATAN;2ALTERNATE NUMBER TWO;4THREE;4FOUR;4FIVE;4SIX;4SEVEN;4EIGHT;4NINE;4TEN;
4FOUR HUNDRED;4SIX HUNDRED;4TWO THOUSAND;4TEN THOUSAND;2FRACTION ONE HALF;4SIXTH;=1EE00;
0ARABIC MATHEMATICAL ALEF;2BEH;2JEEM;2DAL;=1EE05;2WAW;2ZAIN;2HAH;2TAH;2YEH;2KAF;2LAM;2MEEM;2NOON;
2SEEN;2AIN;2FEH;2SAD;2QAF;2REH;2SHEEN;2TEH;2THEH;2KHAH;2THAL;2DAD;2ZAH;2GHAIN;2DOTLESS BEH;3NOON;
3FEH;3QAF;=1EE21;2INITIAL BEH;3JEEM;=1EE24;3HEH;=1EE27;3HAH;=1EE29;3YEH;3KAF;3LAM;3MEEM;3NOON;3SEEN;
3AIN;3FEH;3SAD;3QAF;=1EE34;3SHEEN;3TEH;3THEH;3KHAH;=1EE39;3DAD;=1EE3B;3GHAIN;=1EE42;2TAILED JEEM;
=1EE47;3HAH;=1EE49;3YEH;=1EE4B;3LAM;=1EE4D;3NOON;3SEEN;3AIN;=1EE51;3SAD;3QAF;=1EE54;3SHEEN;=1EE57;
3KHAH;=1EE59;3DAD;=1EE5B;3GHAIN;=1EE5D;3DOTLESS NOON;=1EE5F;4QAF;=1EE61;2STRETCHED BEH;3JEEM;=1EE64;
3HEH;=1EE67;3HAH;3TAH;3YEH;3KAF;=1EE6C;3MEEM;3NOON;3SEEN;3AIN;3FEH;3SAD;3QAF;=1EE74;3SHEEN;3TEH;
3THEH;3KHAH;=1EE79;3DAD;3ZAH;3GHAIN;3DOTLESS BEH;=1EE7E;4FEH;=1EE80;2LOOPED ALEF;3BEH;3JEEM;3DAL;
3HEH;3WAW;3ZAIN;3HAH;3TAH;3YEH;=1EE8B;3LAM;3MEEM;3NOON;3SEEN;3AIN;3FEH;3SAD;3QAF;3REH;3SHEEN;3TEH;
3THEH;3KHAH;3THAL;3DAD;3ZAH;3GHAIN;=1EEA1;2DOUBLE-STRUCK BEH;3JEEM;3DAL;=1EEA5;3WAW;3ZAIN;3HAH;3TAH;
3YEH;=1EEAB;3LAM;3MEEM;3NOON;3SEEN;3AIN;3FEH;3SAD;3QAF;3REH;3SHEEN;3TEH;3THEH;3KHAH;3THAL;3DAD;3ZAH;
3GHAIN;=1EEF0;2OPERATOR MEEM WITH HAH WITH TATWEEL;3HAH WITH DAL;"

/-- Names of the scripts of Africa and America. -/
def africanNames : String := "
=7C0;0NKO DIGIT ZERO;2ONE;2TWO;2THREE;2FOUR;2FIVE;2SIX;2SEVEN;2EIGHT;2NINE;1LETTER A;2EE;2I;2E;2U;
2OO;2O;2DAGBASINNA;2N;2BA;2PA;2TA;2JA;2CHA;2DA;2RA;2RRA;2SA;2GBA;2FA;2KA;2LA;2NA WOLOSO;2MA;2NYA;
2NA;2HA;2WA;2YA;2NYA WOLOSO;2JONA JA;3CHA;3RA;1COMBINING SHORT HIGH TONE;3LOW TONE;3RISING TONE;
2LONG DESCENDING TONE;3HIGH TONE;3LOW TONE;3RISING TONE;2NASALIZATION MARK;2DOUBLE DOT ABOVE;
1HIGH TONE APOSTROPHE;1LOW TONE APOSTROPHE;1SYMBOL OO DENNEN;2GBAKURUNEN;1COMMA;1EXCLAMATION MARK;
1LAJANYALAN;=7FD;1DANTAYALAN;1DOROME SIGN;1TAMAN SIGN;=1200;0ETHIOPIC SYLLABLE HA;2HU;2HI;2HAA;2HEE;
2HE;2HO;2HOA;2LA;2LU;2LI;2LAA;2LEE;2LE;2LO;2LWA;2HHA;2HHU;2HHI;2HHAA;2HHEE;2HHE;2HHO;2HHWA;2MA;2MU;
2MI;2MAA;2MEE;2ME;2MO;2MWA;2SZA;2SZU;2SZI;2SZAA;2SZEE;2SZE;2SZO;2SZWA;2RA;2RU;2RI;2RAA;2REE;2RE;2RO;
2RWA;2SA;2SU;2SI;2SAA;2SEE;2SE;2SO;2SWA;2SHA;2SHU;2SHI;2SHAA;2SHEE;2SHE;2SHO;2SHWA;2QA;2QU;2QI;2QAA;
2QEE;2QE;2QO;2QOA;2QWA;=124A;2QWI;2QWAA;2QWEE;2QWE;=1250;2QHA;2QHU;2QHI;2QHAA;2QHEE;2QHE;2QHO;=1258;
2QHWA;=125A;2QHWI;2QHWAA;2QHWEE;2QHWE;=1260;2BA;2BU;2BI;2BAA;2BEE;2BE;2BO;2BWA;2VA;2VU;2VI;2VAA;
2VEE;2VE;2VO;2VWA;2TA;2TU;2TI;2TAA;2TEE;2TE;2TO;2TWA;2CA;2CU;2CI;2CAA;2CEE;2CE;2CO;2CWA;2XA;2XU;2XI;
2XAA;2XEE;2XE;2XO;2XOA;2XWA;=128A;2XWI;2XWAA;2XWEE;2XWE;=1290;2NA;2NU;2NI;2NAA;2NEE;2NE;2NO;2NWA;
2NYA;2NYU;2NYI;2NYAA;2NYEE;2NYE;2NYO;2NYWA;2GLOTTAL A;3U;3I;3AA;3EE;3E;3O;3WA;2KA;2KU;2KI;2KAA;2KEE;
2KE;2KO;2KOA;2KWA;=12B2;2KWI;2KWAA;2KWEE;2KWE;=12B8;2KXA;2KXU;2KXI;2KXAA;2KXEE;2KXE;2KXO;=12C0;
2KXWA;=12C2;2KXWI;2KXWAA;2KXWEE;2KXWE;=12C8;2WA;2WU;2WI;2WAA;2WEE;2WE;2WO;2WOA;2PHARYNGEAL A;3U;3I;
3AA;3EE;3E;3O;=12D8;2ZA;2ZU;2ZI;2ZAA;2ZEE;2ZE;2ZO;2ZWA;2ZHA;2ZHU;2ZHI;2ZHAA;2ZHEE;2ZHE;2ZHO;2ZHWA;
2YA;2YU;2YI;2YAA;2YEE;2YE;2YO;2YOA;2DA;2DU;2DI;2DAA;2DEE;2DE;2DO;2DWA;2DDA;2DDU;2DDI;2DDAA;2DDEE;
2DDE;2DDO;2DDWA;2JA;2JU;2JI;2JAA;2JEE;2JE;2JO;2JWA;2GA;2GU;2GI;2GAA;2GEE;2GE;2GO;2GOA;2GWA;=1312;
2GWI;2GWAA;2GWEE;2GWE;=1318;2GGA;2GGU;2GGI;2GGAA;2GGEE;2GGE;2GGO;2GGWAA;2THA;2THU;2THI;2THAA;2THEE;
2THE;2THO;2THWA;2CHA;2CHU;2CHI;2CHAA;2CHEE;2CHE;2CHO;2CHWA;2PHA;2PHU;2PHI;2PHAA;2PHEE;2PHE;2PHO;
2PHWA;2TSA;2TSU;2TSI;2TSAA;2TSEE;2TSE;2TSO;2TSWA;2TZA;2TZU;2TZI;2TZAA;2TZEE;2TZE;2TZO;2TZOA;2FA;2FU;
2FI;2FAA;2FEE;2FE;2FO;2FWA;2PA;2PU;2PI;2PAA;2PEE;2PE;2PO;2PWA;2RYA;2MYA;2FYA;=135D;
1COMBINING GEMINATION AND VOWEL LENGTH MARK;2VOWEL LENGTH MARK;2GEMINATION MARK;1SECTION MARK;
1WORDSPACE;1FULL STOP;1COMMA;1SEMICOLON;1COLON;1PREFACE COLON;1QUESTION MARK;1PARAGRAPH SEPARATOR;
1DIGIT ONE;2TWO;2THREE;2FOUR;2FIVE;2SIX;2SEVEN;2EIGHT;2NINE;1NUMBER TEN;2TWENTY;2THIRTY;2FORTY;
2FIFTY;2SIXTY;2SEVENTY;2EIGHTY;2NINETY;2HUNDRED;2TEN THOUSAND;=1380;1SYLLABLE SEBATBEIT MWA;2MWI;
2MWEE;2MWE;2SEBATBEIT BWA;2BWI;2BWEE;2BWE;2SEBATBEIT FWA;2FWI;2FWEE;2FWE;2SEBATBEIT PWA;2PWI;2PWEE;
2PWE;1TONAL MARK YIZET;3DERET;3RIKRIK;3SHORT RIKRIK;3DIFAT;3KENAT;3CHIRET;3HIDET;3DERET-HIDET;3KURT;
=13A0;0CHEROKEE LETTER A;2E;2I;2O;2U;2V;2GA;2KA;2GE;2GI;2GO;2GU;2GV;2HA;2HE;2HI;2HO;2HU;2HV;2LA;2LE;
2LI;2LO;2LU;2LV;2MA;2ME;2MI;2MO;2MU;2NA;2HNA;2NAH;2NE;2NI;2NO;2NU;2NV;2QUA;2QUE;2QUI;2QUO;2QUU;2QUV;
2SA;2S;2SE;2SI;2SO;2SU;2SV;2DA;2TA;2DE;2TE;2DI;2TI;2DO;2DU;2DV;2DLA;2TLA;2TLE;2TLI;2TLO;2TLU;2TLV;
2TSA;2TSE;2TSI;2TSO;2TSU;2TSV;2WA;2WE;2WI;2WO;2WU;2WV;2YA;2YE;2YI;2YO;2YU;2YV;2MV;=13F8;
1SMALL LETTER YE;3YI;3YO;3YU;3YV;3MV;=1400;0CANADIAN SYLLABICS HYPHEN;2E;2AAI;2I;2II;2O;2OO;
2Y-CREE OO;2CARRIER EE;3I;2A;2AA;2WE;2WEST-CREE WE;2WI;2WEST-CREE WI;2WII;2WEST-CREE WII;2WO;
2WEST-CREE WO;2WOO;2WEST-CREE WOO;2NASKAPI WOO;2WA;2WEST-CREE WA;2WAA;2WEST-CREE WAA;2NASKAPI WAA;
2AI;2Y-CREE W;2GLOTTAL STOP;2FINAL ACUTE;3GRAVE;3BOTTOM HALF RING;3TOP HALF RING;3RIGHT HALF RING;
3RING;3DOUBLE ACUTE;4SHORT VERTICAL STROKES;3MIDDLE DOT;3SHORT HORIZONTAL STROKE;3PLUS;3DOWN TACK;
2EN;2IN;2ON;2AN;2PE;2PAAI;2PI;2PII;2PO;2POO;2Y-CREE POO;2CARRIER HEE;3HI;2PA;2PAA;2PWE;
2WEST-CREE PWE;2PWI;2WEST-CREE PWI;2PWII;2WEST-CREE PWII;2PWO;2WEST-CREE PWO;2PWOO;2WEST-CREE PWOO;
2PWA;2WEST-CREE PWA;2PWAA;2WEST-CREE PWAA;2Y-CREE PWAA;2P;2WEST-CREE P;2CARRIER H;2TE;2TAAI;2TI;
2TII;2TO;2TOO;2Y-CREE TOO;2CARRIER DEE;3DI;2TA;2TAA;2TWE;2WEST-CREE TWE;2TWI;2WEST-CREE TWI;2TWII;
2WEST-CREE TWII;2TWO;2WEST-CREE TWO;2TWOO;2WEST-CREE TWOO;2TWA;2WEST-CREE TWA;2TWAA;2WEST-CREE TWAA;
2NASKAPI TWAA;2T;2TTE;2TTI;2TTO;2TTA;2KE;2KAAI;2KI;2KII;2KO;2KOO;2Y-CREE KOO;2KA;2KAA;2KWE;
2WEST-CREE KWE;2KWI;2WEST-CREE KWI;2KWII;2WEST-CREE KWII;2KWO;2WEST-CREE KWO;2KWOO;2WEST-CREE KWOO;
2KWA;2WEST-CREE KWA;2KWAA;2WEST-CREE KWAA;2NASKAPI KWAA;2K;2KW;2SOUTH-SLAVEY KEH;3KIH;3KOH;3KAH;2CE;
2CAAI;2CI;2CII;2CO;2COO;2Y-CREE COO;2CA;2CAA;2CWE;2WEST-CREE CWE;2CWI;2WEST-CREE CWI;2CWII;
2WEST-CREE CWII;2CWO;2WEST-CREE CWO;2CWOO;2WEST-CREE CWOO;2CWA;2WEST-CREE CWA;2CWAA;2WEST-CREE CWAA;
2NASKAPI CWAA;2C;2SAYISI TH;2ME;2MAAI;2MI;2MII;2MO;2MOO;2Y-CREE MOO;2MA;2MAA;2MWE;2WEST-CREE MWE;
2MWI;2WEST-CREE MWI;2MWII;2WEST-CREE MWII;2MWO;2WEST-CREE MWO;2MWOO;2WEST-CREE MWOO;2MWA;
2WEST-CREE MWA;2MWAA;2WEST-CREE MWAA;2NASKAPI MWAA;2M;2WEST-CREE M;2MH;2ATHAPASCAN M;2SAYISI M;2NE;
2NAAI;2NI;2NII;2NO;2NOO;2Y-CREE NOO;2NA;2NAA;2NWE;2WEST-CREE NWE;2NWA;2WEST-CREE NWA;2NWAA;
2WEST-CREE NWAA;2NASKAPI NWAA;2N;2CARRIER NG;2NH;2LE;2LAAI;2LI;2LII;2LO;2LOO;2Y-CREE LOO;2LA;2LAA;
2LWE;2WEST-CREE LWE;2LWI;2WEST-CREE LWI;2LWII;2WEST-CREE LWII;2LWO;2WEST-CREE LWO;2LWOO;
2WEST-CREE LWOO;2LWA;2WEST-CREE LWA;2LWAA;2WEST-CREE LWAA;2L;2WEST-CREE L;2MEDIAL L;2SE;2SAAI;2SI;
2SII;2SO;2SOO;2Y-CREE SOO;2SA;2SAA;2SWE;2WEST-CREE SWE;2SWI;2WEST-CREE SWI;2SWII;2WEST-CREE SWII;
2SWO;2WEST-CREE SWO;2SWOO;2WEST-CREE SWOO;2SWA;2WEST-CREE SWA;2SWAA;2WEST-CREE SWAA;2NASKAPI SWAA;
2S;2ATHAPASCAN S;2SW;2BLACKFOOT S;2MOOSE-CREE SK;2NASKAPI SKW;3S-W;3SPWA;3STWA;3SKWA;3SCWA;2SHE;
2SHI;2SHII;2SHO;2SHOO;2SHA;2SHAA;2SHWE;2WEST-CREE SHWE;2SHWI;2WEST-CREE SHWI;2SHWII;
2WEST-CREE SHWII;2SHWO;2WEST-CREE SHWO;2SHWOO;2WEST-CREE SHWOO;2SHWA;2WEST-CREE SHWA;2SHWAA;
2WEST-CREE SHWAA;2SH;2YE;2YAAI;2YI;2YII;2YO;2YOO;2Y-CREE YOO;2YA;2YAA;2YWE;2WEST-CREE YWE;2YWI;
2WEST-CREE YWI;2YWII;2WEST-CREE YWII;2YWO;2WEST-CREE YWO;2YWOO;2WEST-CREE YWOO;2YWA;2WEST-CREE YWA;
2YWAA;2WEST-CREE YWAA;2NASKAPI YWAA;2Y;2BIBLE-CREE Y;2WEST-CREE Y;2SAYISI YI;2RE;2R-CREE RE;
2WEST-CREE LE;2RAAI;2RI;2RII;2RO;2ROO;2WEST-CREE LO;2RA;2RAA;2WEST-CREE LA;2RWAA;2WEST-CREE RWAA;2R;
2WEST-CREE R;2MEDIAL R;2FE;2FAAI;2FI;2FII;2FO;2FOO;2FA;2FAA;2FWAA;2WEST-CREE FWAA;2F;2THE;
2N-CREE THE;2THI;2N-CREE THI;2THII;2N-CREE THII;2THO;2THOO;2THA;2THAA;2THWAA;2WEST-CREE THWAA;2TH;
2TTHE;2TTHI;2TTHO;2TTHA;2TTH;2TYE;2TYI;2TYO;2TYA;2NUNAVIK HE;3HI;3HII;3HO;3HOO;3HA;3HAA;3H;
2NUNAVUT H;2HK;2QAAI;2QI;2QII;2QO;2QOO;2QA;2QAA;2Q;2TLHE;2TLHI;2TLHO;2TLHA;2WEST-CREE RE;3RI;3RO;
3RA;2NGAAI;2NGI;2NGII;2NGO;2NGOO;2NGA;2NGAA;2NG;2NNG;2SAYISI SHE;3SHI;3SHO;3SHA;2WOODS-CREE THE;
3THI;3THO;3THA;3TH;2LHI;2LHII;2LHO;2LHOO;2LHA;2LHAA;2LH;2TH-CREE THE;3THI;3THII;3THO;3THOO;3THA;
3THAA;3TH;2AIVILIK B;2BLACKFOOT E;3I;3O;3A;3WE;3WI;3WO;3WA;3NE;3NI;3NO;3NA;3KE;3KI;3KO;3KA;
2SAYISI HE;3HI;3HO;3HA;2CARRIER GHU;3GHO;3GHE;3GHEE;3GHI;3GHA;3RU;3RO;3RE;3REE;3RI;3RA;3WU;3WO;3WE;
3WEE;3WI;3WA;3HWU;3HWO;3HWE;3HWEE;3HWI;3HWA;3THU;3THO;3THE;3THEE;3THI;3THA;3TTU;3TTO;3TTE;3TTEE;
3TTI;3TTA;3PU;3PO;3PE;3PEE;3PI;3PA;3P;3GU;3GO;3GE;3GEE;3GI;3GA;3KHU;3KHO;3KHE;3KHEE;3KHI;3KHA;3KKU;
3KKO;3KKE;3KKEE;3KKI;3KKA;3KK;3NU;3NO;3NE;3NEE;3NI;3NA;3MU;3MO;3ME;3MEE;3MI;3MA;3YU;3YO;3YE;3YEE;
3YI;3YA;3JU;2SAYISI JU;2CARRIER JO;3JE;3JEE;3JI;2SAYISI JI;2CARRIER JA;3JJU;3JJO;3JJE;3JJEE;3JJI;
3JJA;3LU;3LO;3LE;3LEE;3LI;3LA;3DLU;3DLO;3DLE;3DLEE;3DLI;3DLA;3LHU;3LHO;3LHE;3LHEE;3LHI;3LHA;3TLHU;
3TLHO;3TLHE;3TLHEE;3TLHI;3TLHA;3TLU;3TLO;3TLE;3TLEE;3TLI;3TLA;3ZU;3ZO;3ZE;3ZEE;3ZI;3ZA;3Z;
3INITIAL Z;3DZU;3DZO;3DZE;3DZEE;3DZI;3DZA;3SU;3SO;3SE;3SEE;3SI;3SA;3SHU;3SHO;3SHE;3SHEE;3SHI;3SHA;
3SH;3TSU;3TSO;3TSE;3TSEE;3TSI;3TSA;3CHU;3CHO;3CHE;3CHEE;3CHI;3CHA;3TTSU;3TTSO;3TTSE;3TTSEE;3TTSI;
3TTSA;2CHI SIGN;2FULL STOP;2QAI;2NGAI;2NNGI;2NNGII;2NNGO;2NNGOO;2NNGA;2NNGAA;2WOODS-CREE THWEE;
3THWI;3THWII;3THWO;3THWOO;3THWA;3THWAA;3FINAL TH;2BLACKFOOT W;=18B0;2OY;2AY;2AAY;2WAY;2POY;2PAY;
2PWOY;2TAY;2KAY;2KWAY;2MAY;2NOY;2NAY;2LAY;2SOY;2SAY;2SHOY;2SHAY;2SHWOY;2YOY;2YAY;2RAY;2NWI;
2OJIBWAY NWI;2NWII;2OJIBWAY NWII;2NWO;2OJIBWAY NWO;2NWOO;2OJIBWAY NWOO;2RWEE;2RWI;2RWII;2RWO;2RWOO;
2RWA;2OJIBWAY P;3T;3K;3C;3M;3N;3S;3SH;2EASTERN W;2WESTERN W;2FINAL SMALL RING;3RAISED DOT;
2R-CREE RWE;2WEST-CREE LOO;3LAA;2THWE;2THWA;2TTHWE;2TTHOO;2TTHAA;2TLHWE;2TLHOO;2SAYISI SHWE;3SHOO;
3HOO;2CARRIER GWU;3DENE GEE;3GAA;3GWA;2SAYISI JUU;2CARRIER JWA;2BEAVER DENE L;4R;2CARRIER DENTAL S;
=2D30;0TIFINAGH LETTER YA;2YAB;2YABH;2YAG;2YAGHH;2BERBER ACADEMY YAJ;2YAJ;2YAD;2YADH;2YADD;2YADDH;
2YEY;2YAF;2YAK;2TUAREG YAK;2YAKHH;2YAH;2BERBER ACADEMY YAH;2TUAREG YAH;2YAHH;2YAA;2YAKH;
2TUAREG YAKH;2YAQ;2TUAREG YAQ;2YI;2YAZH;2AHAGGAR YAZH;2TUAREG YAZH;2YAL;2YAM;2YAN;2TUAREG YAGN;
3YANG;2YAP;2YU;2YAR;2YARR;2YAGH;2TUAREG YAGH;2AYER YAGH;2YAS;2YASS;2YASH;2YAT;2YATH;2YACH;2YATT;
2YAV;2YAW;2YAY;2YAZ;2TAWELLEMET YAZ;2YAZZ;2YE;2YO;=2D6F;1MODIFIER LETTER LABIALIZATION MARK;
1SEPARATOR MARK;=2D7F;1CONSONANT JOINER;0ETHIOPIC SYLLABLE LOA;2MOA;2ROA;2SOA;2SHOA;2BOA;2TOA;2COA;
2NOA;2NYOA;2GLOTTAL OA;2ZOA;2DOA;2DDOA;2JOA;2THOA;2CHOA;2PHOA;2POA;2GGWA;2GGWI;2GGWEE;2GGWE;=2DA0;
2SSA;2SSU;2SSI;2SSAA;2SSEE;2SSE;2SSO;=2DA8;2CCA;2CCU;2CCI;2CCAA;2CCEE;2CCE;2CCO;=2DB0;2ZZA;2ZZU;
2ZZI;2ZZAA;2ZZEE;2ZZE;2ZZO;=2DB8;2CCHA;2CCHU;2CCHI;2CCHAA;2CCHEE;2CCHE;2CCHO;=2DC0;2QYA;2QYU;2QYI;
2QYAA;2QYEE;2QYE;2QYO;=2DC8;2KYA;2KYU;2KYI;2KYAA;2KYEE;2KYE;2KYO;=2DD0;2XYA;2XYU;2XYI;2XYAA;2XYEE;
2XYE;2XYO;=2DD8;2GYA;2GYU;2GYI;2GYAA;2GYEE;2GYE;2GYO;=A500;0VAI SYLLABLE EE;2EEN;2HEE;2WEE;2WEEN;
2PEE;2BHEE;2BEE;2MBEE;2KPEE;2MGBEE;2GBEE;2FEE;2VEE;2TEE;2THEE;2DHEE;2DHHEE;2LEE;2REE;2DEE;2NDEE;
2SEE;2SHEE;2ZEE;2ZHEE;2CEE;2JEE;2NJEE;2YEE;2KEE;2NGGEE;2GEE;2MEE;2NEE;2NYEE;2I;2IN;2HI;2HIN;2WI;
2WIN;2PI;2BHI;2BI;2MBI;2KPI;2MGBI;2GBI;2FI;2VI;2TI;2THI;2DHI;2DHHI;2LI;2RI;2DI;2NDI;2SI;2SHI;2ZI;
2ZHI;2CI;2JI;2NJI;2YI;2KI;2NGGI;2GI;2MI;2NI;2NYI;2A;2AN;2NGAN;2HA;2HAN;2WA;2WAN;2PA;2BHA;2BA;2MBA;
2KPA;2KPAN;2MGBA;2GBA;2FA;2VA;2TA;2THA;2DHA;2DHHA;2LA;2RA;2DA;2NDA;2SA;2SHA;2ZA;2ZHA;2CA;2JA;2NJA;
2YA;2KA;2KAN;2NGGA;2GA;2MA;2NA;2NYA;2OO;2OON;2HOO;2WOO;2WOON;2POO;2BHOO;2BOO;2MBOO;2KPOO;2MGBOO;
2GBOO;2FOO;2VOO;2TOO;2THOO;2DHOO;2DHHOO;2LOO;2ROO;2DOO;2NDOO;2SOO;2SHOO;2ZOO;2ZHOO;2COO;2JOO;2NJOO;
2YOO;2KOO;2NGGOO;2GOO;2MOO;2NOO;2NYOO;2U;2UN;2HU;2HUN;2WU;2WUN;2PU;2BHU;2BU;2MBU;2KPU;2MGBU;2GBU;
2FU;2VU;2TU;2THU;2DHU;2DHHU;2LU;2RU;2DU;2NDU;2SU;2SHU;2ZU;2ZHU;2CU;2JU;2NJU;2YU;2KU;2NGGU;2GU;2MU;
2NU;2NYU;2O;2ON;2NGON;2HO;2HON;2WO;2WON;2PO;2BHO;2BO;2MBO;2KPO;2MGBO;2GBO;2GBON;2FO;2VO;2TO;2THO;
2DHO;2DHHO;2LO;2RO;2DO;2NDO;2SO;2SHO;2ZO;2ZHO;2CO;2JO;2NJO;2YO;2KO;2NGGO;2GO;2MO;2NO;2NYO;2E;2EN;
2NGEN;2HE;2HEN;2WE;2WEN;2PE;2BHE;2BE;2MBE;2KPE;2KPEN;2MGBE;2GBE;2GBEN;2FE;2VE;2TE;2THE;2DHE;2DHHE;
2LE;2RE;2DE;2NDE;2SE;2SHE;2ZE;2ZHE;2CE;2JE;2NJE;2YE;2KE;2NGGE;2NGGEN;2GE;2GEN;2ME;2NE;2NYE;2NG;
2LENGTHENER;1COMMA;1FULL STOP;1QUESTION MARK;1SYLLABLE NDOLE FA;3KA;3SOO;1SYMBOL FEENG;2KEENG;2TING;
2NII;2BANG;2FAA;2TAA;2DANG;2DOONG;2KUNG;2TONG;2DO-O;2JONG;1DIGIT ZERO;2ONE;2TWO;2THREE;2FOUR;2FIVE;
2SIX;2SEVEN;2EIGHT;2NINE;1SYLLABLE NDOLE MA;3DO;=A6A0;0BAMUM LETTER A;2KA;2U;2KU;2EE;2REE;2TAE;2O;
2NYI;2I;2LA;2PA;2RII;2RIEE;2LEEEE;2MEEEE;2TAA;2NDAA;2NJAEM;2M;2SUU;2MU;2SHII;2SI;2SHEUX;2SEUX;2KYEE;
2KET;2NUAE;2NU;2NJUAE;2YOQ;2SHU;2YUQ;2YA;2NSHA;2KEUX;2PEUX;2NJEE;2NTEE;2PUE;2WUE;2PEE;2FEE;2RU;2LU;
2MI;2NI;2REUX;2RAE;2KEN;2NGKWAEN;2NGGA;2NGA;2SHO;2PUAE;2FU;2FOM;2WA;2NA;2LI;2PI;2LOQ;2KO;2MBEN;2REN;
2MEN;2MA;2TI;2KI;2MO;2MBAA;2TET;2KPA;2TEN;2NTUU;2SAMBA;2FAAMAE;2KOVUU;2KOGHOM;
1COMBINING MARK KOQNDON;3TUKWENTIS;1NJAEMLI;1FULL STOP;1COLON;1COMMA;1SEMICOLON;1QUESTION MARK;
=AB01;0ETHIOPIC SYLLABLE TTHU;2TTHI;2TTHAA;2TTHEE;2TTHE;2TTHO;=AB09;2DDHU;2DDHI;2DDHAA;2DDHEE;2DDHE;
2DDHO;=AB11;2DZU;2DZI;2DZAA;2DZEE;2DZE;2DZO;=AB20;2CCHHA;2CCHHU;2CCHHI;2CCHHAA;2CCHHEE;2CCHHE;
2CCHHO;=AB28;2BBA;2BBU;2BBI;2BBAA;2BBEE;2BBE;2BBO;=AB70;0CHEROKEE SMALL LETTER A;3E;3I;3O;3U;3V;3GA;
3KA;3GE;3GI;3GO;3GU;3GV;3HA;3HE;3HI;3HO;3HU;3HV;3LA;3LE;3LI;3LO;3LU;3LV;3MA;3ME;3MI;3MO;3MU;3NA;
3HNA;3NAH;3NE;3NI;3NO;3NU;3NV;3QUA;3QUE;3QUI;3QUO;3QUU;3QUV;3SA;3S;3SE;3SI;3SO;3SU;3SV;3DA;3TA;3DE;
3TE;3DI;3TI;3DO;3DU;3DV;3DLA;3TLA;3TLE;3TLI;3TLO;3TLU;3TLV;3TSA;3TSE;3TSI;3TSO;3TSU;3TSV;3WA;3WE;
3WI;3WO;3WU;3WV;3YA;=16800;0BAMUM LETTER PHASE-A NGKUE MFON;3GBIEE FON;3PON MFON PIPAEMGBIEE;
5PIPAEMBA;3NAA MFON;3SHUENSHUET;3TITA MFON;3NZA MFON;3SHINDA PA NJI;3PON PA NJI PIPAEMGBIEE;
6PIPAEMBA;3MAEMBGBIEE;3TU MAEMBA;3NGANGU;3MAEMVEUX;3MANSUAE;3MVEUAENGAM;3SEUNYAM;3NTOQPEN;
3KEUKEUTNDA;3NKINDI;3SUU;3NGKUENZEUM;3LAPAQ;3LET KUT;3NTAP MFAA;3MAEKEUP;3PASHAE;3GHEUAERAE;
3PAMSHAE;3MON NGGEUAET;3NZUN MEUT;3U YUQ NAE;3GHEUAEGHEUAE;3NTAP NTAA;3SISA;3MGBASA;3MEUNJOMNDEUQ;
3MOOMPUQ;3KAFA;3PA LEERAEWA;3NDA LEERAEWA;3PET;3MAEMKPEN;3NIKA;3PUP;3TUAEP;3LUAEP;3SONJAM;
3TEUTEUWEN;3MAENYI;3KET;3NDAANGGEUAET;3KUOQ;3MOOMEUT;3SHUM;3LOMMAE;3FIRI;3ROM;3KPOQ;3SOQ;3MAP PIEET;
3SHIRAE;3NTAP;3SHOQ NSHUT YUM;3NYIT MONGKEUAEQ;3PAARAE;3NKAARAE;3UNKNOWN;3NGGEN;3MAESI;3NJAM;
3MBANYI;3NYET;3TEUAEN;3SOT;3PAAM;3NSHIEE;3MAEM;3NYI;3KAQ;3NSHA;3VEE;3LU;3NEN;3NAQ;3MBAQ;
2PHASE-B NSHUET;3TU MAEMGBIEE;3SIEE;3SET TU;3LOM NTEUM;3MBA MAELEE;3KIEEM;3YEURAE;3MBAARAE;3KAM;
3PEESHI;3YAFU LEERAEWA;3LAM NSHUT NYAM;3NTIEE SHEUOQ;3NDU NJAA;3GHEUGHEUAEM;3PIT;3TU NSIEE;
3SHET NJAQ;3SHEUAEQTU;3MFON TEUAEQ;3MBIT MBAAKET;3NYI NTEUM;3KEUPUQ;3GHEUGHEN;3KEUYEUX;3LAANAE;
3PARUM;3VEUM;3NGKINDI MVOP;3NGGEU MBU;3WUAET;3SAKEUAE;3TAAM;3MEUQ;3NGGUOQ;4LARGE;3MFIYAQ;3SUE;
3MBEURI;3MONTIEEN;3NYAEMAE;3PUNGAAM;3MEUT NGGEET;3FEUX;3MBUOQ;3FEE;3KEUAEM;3MA NJEUAENA;4NJUQA;3LET;
3NGGAAM;3NSEN;3MA;3KIQ;3NGOM;2PHASE-C NGKUE MAEMBA;3NZA;3YUM;3WANGKUOQ;3NGGEN;3NDEUAEREE;3NGKAQ;
3GHARAE;3MBEEKEET;3GBAYI;3NYIR MKPARAQ MEUN;3NTU MBIT;3MBEUM;3PIRIEEN;3NDOMBU;3MBAA CABBAGE-TREE;
3KEUSHEUAEP;3GHAP;3KEUKAQ;3YU MUOMAE;3NZEUM;3MBUE;3NSEUAEN;3MBIT;3YEUQ;3KPARAQ;3KAA;3SEUX;3NDIDA;
3TAASHAE;3NJUEQ;3TITA YUE;3SUAET;3NGGUAEN NYAM;3VEUX;3NANSANAQ;3MA KEUAERI;3NTAA;3NGGUON;3LAP;
3MBIRIEEN;3MGBASAQ;3NTEUNGBA;3TEUTEUX;3NGGUM;3FUE;3NDEUT;3NSA;3NSHAQ;3BUNG;3VEUAEPEN;3MBERAE;3RU;
3NJAEM;3LAM;3TITUAEP;3NSUOT NGOM;3NJEEEE;3KET;3NGGU;3MAESI;3MBUAEM;3LU;3KUT;3NJAM;3NGOM;3WUP;
3NGGUEET;3NSOM;3NTEN;3KUOP NKAARAE;3NSUN;3NDAM;3MA NSIEE;3YAA;3NDAP;3SHUEQ;3SETFON;3MBI;3MAEMBA;
3MBANYI;3KEUSEUX;3MBEUX;3KEUM;3MBAA PICKET;3YUWOQ;3NJEUX;3MIEE;3MUAE;3SHIQ;3KEN LAW;4FATIGUE;3NGAQ;
3NAQ;3LIQ;3PIN;3PEN;3TET;2PHASE-D MBUO;3WAP;3NJI;3MFON;3NJIEE;3LIEE;3NJEUT;3NSHEE;3NGGAAMAE;3NYAM;
3WUAEN;3NGKUN;3SHEE;3NGKAP;3KEUAETMEUN;3TEUT;3SHEUAE;3NJAP;3SUE;3KET;3YAEMMAE;3KUOM;3SAP;3MFEUT;
3NDEUX;3MALEERI;3MEUT;3SEUAEQ;3YEN;3NJEUAEM;3KEUOT MBUAE;3NGKEURI;3TU;3GHAA;3NGKYEE;3FEUFEUAET;
3NDEE;3MGBOFUM;3LEUAEP;3NDON;3MONI;3MGBEUN;3PUUT;3MGBIEE;3MFO;3LUM;3NSIEEP;3MBAA;3KWAET;3NYET;
3TEUAEN;3SOT;3YUWOQ;3KEUM;3RAEM;3TEEEE;3NGKEUAEQ;3MFEUAE;3NSIEET;3KEUP;3PIP;3PEUTAE;3NYUE;3LET;
3NGGAAM;3MFIEE;3NGGWAEN;3YUOM;3PAP;3YUOP;3NDAM;3NTEUM;3SUAE;3KUN;3NGGEUX;3NGKIEE;3TUOT;3MEUN;3KUQ;
3NSUM;3TEUN;3MAENJET;3NGGAP;3LEUM;3NGGUOM;3NSHUT;3NJUEQ;3GHEUAE;3KU;3REN OLD;3TAE;3TOQ;3NYI;3RII;
3LEEEE;3MEEEE;3M;3SUU;3MU;3SHII;3SHEUX;3KYEE;3NU;3SHU;3NTEE;3PEE;3NI;3SHOQ;3PUQ;3MVOP;3LOQ;
3REN MUCH;3TI;3NTUU;3MBAA SEVEN;3SAQ;3FAA;2PHASE-E NDAP;3TOON;3MBEUM;3LAP;3VOM;3LOON;3PAA;3SOM;3RAQ;
3NSHUOP;3NDUN;3PUAE;3TAM;3NGKA;3KPEUX;3WUO;3SEE;3NGGEUAET;3PAAM;3TOO;3KUOP;3LOM;3NSHIEE;3NGOP;3MAEM;
3NGKEUX;3NGOQ;3NSHUE;3RIMGBA;3NJEUX;3PEEM;3SAA;3NGGURAE;3MGBA;3GHEUX;3NGKEUAEM;3NJAEMLI;3MAP;3LOOT;
3NGGEEEE;3NDIQ;3TAEN NTEUM;3SET;3PUM;3NDAA SOFTNESS;3NGGUAESHAE NYAM;3YIEE;3GHEUN;3TUAE;3YEUAE;3PO;
3TUMAE;3KEUAE;3SUAEN;3TEUAEQ;3VEUAE;3WEUX;3LAAM;3PU;3TAAQ;3GHAAMAE;3NGEUREUT;3SHEUAEQ;3MGBEN;3MBEE;
3NZAQ;3NKOM;3GBET;3TUM;3KUET;3YAP;3NYI CLEAVER;3YIT;3MFEUQ;3NDIAQ;3PIEEQ;3YUEQ;3LEUAEM;3FUE;3GBEUX;
3NGKUP;3KET;3MAE;3NGKAAMI;3GHET;3FA;3NTUM;3PEUT;3YEUM;3NGGEUAE;3NYI BETWEEN;3NZUQ;3POON;3MIEE;3FUET;
3NAE;3MUAE;3GHEUAE;3FU I;3MVI;3PUAQ;3NGKUM;3KUT;3PIET;3NTAP;3YEUAET;3NGGUP;3PA PEOPLE;3FU CALL;3FOM;
3NJEE;3A;3TOQ;3O;3I;3LAQ;3PA PLURAL;3TAA;3TAQ;3NDAA MY HOUSE;3SHIQ;3YEUX;3NGUAE;3YUAEN;
3YOQ SWIMMING;4COVER;3YUQ;3YUN;3KEUX;3PEUX;3NJEE EPOCH;3PUE;3WUE;3FEE;3VEE;3LU;3MI;3REUX;3RAE;
3NGUAET;3NGA;3SHO;3SHOQ;3FU REMEDY;3NA;3PI;3LOQ;3KO;3MEN;3MA;3MAQ;3TEU;3KI;3MON;3TEN;3FAQ;3GHOM;
2PHASE-F KA;3U;3KU;3EE;3REE;3TAE;3NYI;3LA;3RII;3RIEE;3MEEEE;3TAA;3NDAA;3NJAEM;3M;3SUU;3SHII;3SI;
3SEUX;3KYEE;3KET;3NUAE;3NU;3NJUAE;3YOQ;3SHU;3YA;3NSHA;3PEUX;3NTEE;3WUE;3PEE;3RU;3NI;3REUX;3KEN;
3NGKWAEN;3NGGA;3SHO;3PUAE;3FOM;3WA;3LI;3LOQ;3KO;3MBEN;3REN;3MA;3MO;3MBAA;3TET;3KPA;3SAMBA;3VUEQ;
=16E40;0MEDEFAIDRIN CAPITAL LETTER M;3S;3V;3W;3ATIU;3Z;3KP;3P;3T;3G;3F;3I;3K;3A;3J;3E;3B;3C;3U;3YU;
3L;3Q;3HP;3NY;3X;3D;3OE;3N;3R;3O;3AI;3Y;1SMALL LETTER M;3S;3V;3W;3ATIU;3Z;3KP;3P;3T;3G;3F;3I;3K;3A;
3J;3E;3B;3C;3U;3YU;3L;3Q;3HP;3NY;3X;3D;3OE;3N;3R;3O;3AI;3Y;1DIGIT ZERO;2ONE;2TWO;2THREE;2FOUR;2FIVE;
2SIX;2SEVEN;2EIGHT;2NINE;1NUMBER TEN;2ELEVEN;2TWELVE;2THIRTEEN;2FOURTEEN;2FIFTEEN;2SIXTEEN;
2SEVENTEEN;2EIGHTEEN;2NINETEEN;1DIGIT ONE ALTERNATE FORM;2TWO ALTERNATE FORM;2THREE ALTERNATE FORM;
1COMMA;1FULL STOP;1SYMBOL AIVA;1EXCLAMATION OH;=1E7E0;0ETHIOPIC SYLLABLE HHYA;2HHYU;2HHYI;2HHYAA;
2HHYEE;2HHYE;2HHYO;=1E7E8;2GURAGE HHWA;2HHWI;2HHWEE;2HHWE;=1E7ED;2GURAGE MWI;3MWEE;=1E7F0;3QWI;
3QWEE;3QWE;3BWI;3BWEE;3KWI;3KWEE;3KWE;3GWI;3GWEE;3GWE;3FWI;3FWEE;3PWI;3PWEE;=1E800;
0MENDE KIKAKUI SYLLABLE M001 KI;3M002 KA;3M003 KU;3M065 KEE;3M095 KE;3M076 KOO;3M048 KO;3M179 KUA;
3M004 WI;3M005 WA;3M006 WU;3M126 WEE;3M118 WE;3M114 WOO;3M045 WO;3M194 WUI;3M143 WEI;3M061 WVI;
3M049 WVA;3M139 WVE;3M007 MIN;3M008 MAN;3M009 MUN;3M059 MEN;3M094 MON;3M154 MUAN;3M189 MUEN;
3M010 BI;3M011 BA;3M012 BU;3M150 BEE;3M097 BE;3M103 BOO;3M138 BO;3M013 I;3M014 A;3M015 U;3M163 EE;
3M100 E;3M165 OO;3M147 O;3M137 EI;3M131 IN;3M135 IN;3M195 AN;3M178 EN;3M019 SI;3M020 SA;3M021 SU;
3M162 SEE;3M116 SE;3M136 SOO;3M079 SO;3M196 SIA;3M025 LI;3M026 LA;3M027 LU;3M084 LEE;3M073 LE;
3M054 LOO;3M153 LO;3M110 LONG LE;3M016 DI;3M017 DA;3M018 DU;3M089 DEE;3M180 DOO;3M181 DO;3M022 TI;
3M023 TA;3M024 TU;3M091 TEE;3M055 TE;3M104 TOO;3M069 TO;3M028 JI;3M029 JA;3M030 JU;3M157 JEE;
3M113 JE;3M160 JOO;3M063 JO;3M175 LONG JO;3M031 YI;3M032 YA;3M033 YU;3M109 YEE;3M080 YE;3M141 YOO;
3M121 YO;3M034 FI;3M035 FA;3M036 FU;3M078 FEE;3M075 FE;3M133 FOO;3M088 FO;3M197 FUA;3M101 FAN;
3M037 NIN;3M038 NAN;3M039 NUN;3M117 NEN;3M169 NON;3M176 HI;3M041 HA;3M186 HU;3M040 HEE;3M096 HE;
3M042 HOO;3M140 HO;3M083 HEEI;3M128 HOOU;3M053 HIN;3M130 HAN;3M087 HUN;3M052 HEN;3M193 HON;
3M046 HUAN;3M090 NGGI;3M043 NGGA;3M082 NGGU;3M115 NGGEE;3M146 NGGE;3M156 NGGOO;3M120 NGGO;
3M159 NGGAA;3M127 NGGUA;3M086 LONG NGGE;3M106 LONG NGGOO;3M183 LONG NGGO;3M155 GI;3M111 GA;3M168 GU;
3M190 GEE;3M166 GUEI;3M167 GUAN;3M184 NGEN;3M057 NGON;3M177 NGUAN;3M068 PI;3M099 PA;3M050 PU;
3M081 PEE;3M051 PE;3M102 POO;3M066 PO;3M145 MBI;3M062 MBA;3M122 MBU;3M047 MBEE;3M188 MBEE;3M072 MBE;
3M172 MBOO;3M174 MBO;3M187 MBUU;3M161 LONG MBE;3M105 LONG MBOO;3M142 LONG MBO;3M132 KPI;3M092 KPA;
3M074 KPU;3M044 KPEE;3M108 KPE;3M112 KPOO;3M158 KPO;3M124 GBI;3M056 GBA;3M148 GBU;3M093 GBEE;
3M107 GBE;3M071 GBOO;3M070 GBO;3M171 RA;3M123 NDI;3M129 NDA;3M125 NDU;3M191 NDEE;3M119 NDE;
3M067 NDOO;3M064 NDO;3M152 NJA;3M192 NJU;3M149 NJEE;3M134 NJOO;3M182 VI;3M185 VA;3M151 VU;3M173 VEE;
3M085 VE;3M144 VOO;3M077 VO;3M164 NYIN;3M058 NYAN;3M170 NYUN;3M098 NYEN;3M060 NYON;=1E8C7;
2DIGIT ONE;3TWO;3THREE;3FOUR;3FIVE;3SIX;3SEVEN;3EIGHT;3NINE;2COMBINING NUMBER TEENS;4TENS;4HUNDREDS;
4THOUSANDS;4TEN THOUSANDS;4HUNDRED THOUSANDS;4MILLIONS;=1E900;0ADLAM CAPITAL LETTER ALIF;3DAALI;
3LAAM;3MIIM;3BA;3SINNYIIYHE;3PE;3BHE;3RA;3E;3FA;3I;3O;3DHA;3YHE;3WAW;3NUN;3KAF;3YA;3U;3JIIM;3CHI;
3HA;3QAAF;3GA;3NYA;3TU;3NHA;3VA;3KHA;3GBE;3ZAL;3KPO;3SHA;1SMALL LETTER ALIF;3DAALI;3LAAM;3MIIM;3BA;
3SINNYIIYHE;3PE;3BHE;3RA;3E;3FA;3I;3O;3DHA;3YHE;3WAW;3NUN;3KAF;3YA;3U;3JIIM;3CHI;3HA;3QAAF;3GA;3NYA;
3TU;3NHA;3VA;3KHA;3GBE;3ZAL;3KPO;3SHA;1ALIF LENGTHENER;1VOWEL LENGTHENER;1GEMINATION MARK;1HAMZA;
1CONSONANT MODIFIER;1GEMINATE CONSONANT MODIFIER;1NUKTA;1NASALIZATION MARK;=1E950;1DIGIT ZERO;2ONE;
2TWO;2THREE;2FOUR;2FIVE;2SIX;2SEVEN;2EIGHT;2NINE;=1E95E;1INITIAL EXCLAMATION MARK;2QUESTION MARK;"

/-- Names of ancient scripts. -/
def ancientNames : String := "
=10000;0LINEAR B SYLLABLE B008 A;3B038 E;3B028 I;3B061 O;3B010 U;3B001 DA;3B045 DE;3B007 DI;
3B014 DO;3B051 DU;3B057 JA;3B046 JE;=1000D;3B036 JO;3B065 JU;3B077 KA;3B044 KE;3B067 KI;3B070 KO;
3B081 KU;3B080 MA;3B013 ME;3B073 MI;3B015 MO;3B023 MU;3B006 NA;3B024 NE;3B030 NI;3B052 NO;3B055 NU;
3B003 PA;3B072 PE;3B039 PI;3B011 PO;3B050 PU;3B016 QA;3B078 QE;3B021 QI;3B032 QO;=10028;3B060 RA;
3B027 RE;3B053 RI;3B002 RO;3B026 RU;3B031 SA;3B009 SE;3B041 SI;3B012 SO;3B058 SU;3B059 TA;3B004 TE;
3B037 TI;3B005 TO;3B069 TU;3B054 WA;3B075 WE;3B040 WI;3B042 WO;=1003C;3B017 ZA;3B074 ZE;=1003F;
3B020 ZO;3B025 A2;3B043 A3;3B085 AU;3B071 DWE;3B090 DWO;3B048 NWA;3B029 PU2;3B062 PTE;3B076 RA2;
3B033 RA3;3B068 RO2;3B066 TA2;3B087 TWE;3B091 TWO;=10050;2SYMBOL B018;3B019;3B022;3B034;3B047;3B049;
3B056;3B063;3B064;3B079;3B082;3B083;3B086;3B089;=10080;2IDEOGRAM B100 MAN;3B102 WOMAN;3B104 DEER;
3B105 EQUID;3B105F MARE;3B105M STALLION;3B106F EWE;3B106M RAM;3B107F SHE-GOAT;3B107M HE-GOAT;
3B108F SOW;3B108M BOAR;3B109F COW;3B109M BULL;3B120 WHEAT;3B121 BARLEY;3B122 OLIVE;3B123 SPICE;
3B125 CYPERUS;2MONOGRAM B127 KAPO;3B128 KANAKO;2IDEOGRAM B130 OIL;3B131 WINE;3B132;
2MONOGRAM B133 AREPA;3B135 MERI;2IDEOGRAM B140 BRONZE;3B141 GOLD;3B142;3B145 WOOL;3B146;3B150;
3B151 HORN;3B152;3B153;3B154;2MONOGRAM B156 TURO2;2IDEOGRAM B157;3B158;3B159 CLOTH;3B160;3B161;
3B162 GARMENT;3B163 ARMOUR;3B164;3B165;3B166;3B167;3B168;3B169;3B170;3B171;3B172;3B173 MONTH;3B174;
3B176 TREE;3B177;3B178;3B179;3B180;3B181;3B182;3B183;3B184;3B185;3B189;3B190;3B191 HELMET;
3B220 FOOTSTOOL;3B225 BATHTUB;3B230 SPEAR;3B231 ARROW;3B232;3B233 SWORD;3B234;3B236;
3B240 WHEELED CHARIOT;3B241 CHARIOT;3B242 CHARIOT FRAME;3B243 WHEEL;3B245;3B246;
2MONOGRAM B247 DIPTE;2IDEOGRAM B248;3B249;3B251;3B252;3B253;3B254 DART;3B255;3B256;3B257;3B258;
3B259;3VESSEL B155;4B200;4B201;4B202;4B203;4B204;4B205;4B206;4B207;4B208;4B209;4B210;4B211;4B212;
4B213;4B214;4B215;4B216;4B217;4B218;4B219;4B221;4B222;4B226;4B227;4B228;4B229;4B250;4B305;=10100;
0AEGEAN WORD SEPARATOR LINE;3DOT;1CHECK MARK;=10107;1NUMBER ONE;2TWO;2THREE;2FOUR;2FIVE;2SIX;2SEVEN;
2EIGHT;2NINE;2TEN;2TWENTY;2THIRTY;2FORTY;2FIFTY;2SIXTY;2SEVENTY;2EIGHTY;2NINETY;2ONE HUNDRED;
2TWO HUNDRED;2THREE HUNDRED;2FOUR HUNDRED;2FIVE HUNDRED;2SIX HUNDRED;2SEVEN HUNDRED;2EIGHT HUNDRED;
2NINE HUNDRED;2ONE THOUSAND;2TWO THOUSAND;2THREE THOUSAND;2FOUR THOUSAND;2FIVE THOUSAND;
2SIX THOUSAND;2SEVEN THOUSAND;2EIGHT THOUSAND;2NINE THOUSAND;2TEN THOUSAND;2TWENTY THOUSAND;
2THIRTY THOUSAND;2FORTY THOUSAND;2FIFTY THOUSAND;2SIXTY THOUSAND;2SEVENTY THOUSAND;2EIGHTY THOUSAND;
2NINETY THOUSAND;=10137;1WEIGHT BASE UNIT;2FIRST SUBUNIT;2SECOND SUBUNIT;2THIRD SUBUNIT;
2FOURTH SUBUNIT;1DRY MEASURE FIRST SUBUNIT;1LIQUID MEASURE FIRST SUBUNIT;1MEASURE SECOND SUBUNIT;
2THIRD SUBUNIT;0GREEK ACROPHONIC ATTIC ONE QUARTER;4HALF;4DRACHMA;3FIVE;3FIFTY;3FIVE HUNDRED;
4THOUSAND;3FIFTY THOUSAND;3FIVE TALENTS;3TEN TALENTS;3FIFTY TALENTS;3ONE HUNDRED TALENTS;
3FIVE HUNDRED TALENTS;3ONE THOUSAND TALENTS;3FIVE THOUSAND TALENTS;4STATERS;3TEN STATERS;
3FIFTY STATERS;3ONE HUNDRED STATERS;3FIVE HUNDRED STATERS;3ONE THOUSAND STATERS;
3TEN THOUSAND STATERS;3FIFTY THOUSAND STATERS;3TEN MNAS;2HERAEUM ONE PLETHRON;2THESPIAN ONE;
2HERMIONIAN ONE;2EPIDAUREAN TWO;2THESPIAN TWO;2CYRENAIC TWO DRACHMAS;2EPIDAUREAN TWO DRACHMAS;
2TROEZENIAN FIVE;3TEN;4ALTERNATE FORM;2HERMIONIAN TEN;2MESSENIAN TEN;2THESPIAN TEN;3THIRTY;
2TROEZENIAN FIFTY;4ALTERNATE FORM;2HERMIONIAN FIFTY;2THESPIAN FIFTY;3ONE HUNDRED;3THREE HUNDRED;
2EPIDAUREAN FIVE HUNDRED;2TROEZENIAN FIVE HUNDRED;2THESPIAN FIVE HUNDRED;2CARYSTIAN FIVE HUNDRED;
2NAXIAN FIVE HUNDRED;2THESPIAN ONE THOUSAND;3FIVE THOUSAND;2DELPHIC FIVE MNAS;2STRATIAN FIFTY MNAS;
1ONE HALF SIGN;4ALTERNATE FORM;1TWO THIRDS SIGN;1THREE QUARTERS SIGN;1YEAR SIGN;1TALENT SIGN;
1DRACHMA SIGN;1OBOL SIGN;1TWO OBOLS SIGN;1THREE OBOLS SIGN;1FOUR OBOLS SIGN;1FIVE OBOLS SIGN;
1METRETES SIGN;1KYATHOS BASE SIGN;1LITRA SIGN;1OUNKIA SIGN;1XESTES SIGN;1ARTABE SIGN;1AROURA SIGN;
1GRAMMA SIGN;1TRYBLION BASE SIGN;1ZERO SIGN;1ONE QUARTER SIGN;1SINUSOID SIGN;1INDICTION SIGN;
0NOMISMA SIGN;=10190;0ROMAN SEXTANS SIGN;1UNCIA SIGN;1SEMUNCIA SIGN;1SEXTULA SIGN;
1DIMIDIA SEXTULA SIGN;1SILIQUA SIGN;1DENARIUS SIGN;1QUINARIUS SIGN;1SESTERTIUS SIGN;1DUPONDIUS SIGN;
1AS SIGN;1CENTURIAL SIGN;0ASCIA SYMBOL;=101A0;0GREEK SYMBOL TAU RHO;=101D0;
0PHAISTOS DISC SIGN PEDESTRIAN;3PLUMED HEAD;3TATTOOED HEAD;3CAPTIVE;3CHILD;3WOMAN;3HELMET;3GAUNTLET;
3TIARA;3ARROW;3BOW;3SHIELD;3CLUB;3MANACLES;3MATTOCK;3SAW;3LID;3BOOMERANG;3CARPENTRY PLANE;3DOLIUM;
3COMB;3SLING;3COLUMN;3BEEHIVE;3SHIP;3HORN;3HIDE;3BULLS LEG;3CAT;3RAM;3EAGLE;3DOVE;3TUNNY;3BEE;
3PLANE TREE;3VINE;3PAPYRUS;3ROSETTE;3LILY;3OX BACK;3FLUTE;3GRATER;3STRAINER;3SMALL AXE;3WAVY BAND;
3COMBINING OBLIQUE STROKE;=10280;0LYCIAN LETTER A;2E;2B;2BH;2G;2D;2I;2W;2Z;2TH;2J;2K;2Q;2L;2M;2N;
2MM;2NN;2U;2P;2KK;2R;2S;2T;2TT;2AN;2EN;2H;2X;=102A0;0CARIAN LETTER A;2P2;2D;2L;2UUU;2R;2LD;2A2;2Q;
2B;2M;2O;2D2;2T;2SH;2SH2;2S;2C-18;2U;2NN;2X;2N;2TT2;2P;2SS;2I;2E;2UUUU;2K;2K2;2ND;2UU;2G;2G2;2ST;
2ST2;2NG;2II;2C-39;2TT;2UUU2;2RR;2MB;2MB2;2MB3;2MB4;2LD2;2E2;2UUU3;=102E0;
0COPTIC EPACT THOUSANDS MARK;2DIGIT ONE;3TWO;3THREE;3FOUR;3FIVE;3SIX;3SEVEN;3EIGHT;3NINE;
2NUMBER TEN;3TWENTY;3THIRTY;3FORTY;3FIFTY;3SIXTY;3SEVENTY;3EIGHTY;3NINETY;3ONE HUNDRED;3TWO HUNDRED;
3THREE HUNDRED;3FOUR HUNDRED;3FIVE HUNDRED;3SIX HUNDRED;3SEVEN HUNDRED;3EIGHT HUNDRED;3NINE HUNDRED;
=10300;0OLD ITALIC LETTER A;3BE;3KE;3DE;3E;3VE;3ZE;3HE;3THE;3I;3KA;3EL;3EM;3EN;3ESH;3O;3PE;3SHE;3KU;
3ER;3ES;3TE;3U;3EKS;3PHE;3KHE;3EF;3ERS;3CHE;3II;3UU;3ESS;2NUMERAL ONE;3FIVE;3TEN;3FIFTY;=1032D;
2LETTER YE;3NORTHERN TSE;3SOUTHERN TSE;0GOTHIC LETTER AHSA;2BAIRKAN;2GIBA;2DAGS;2AIHVUS;2QAIRTHRA;
2IUJA;2HAGL;2THIUTH;2EIS;2KUSMA;2LAGUS;2MANNA;2NAUTHS;2JER;2URUS;2PAIRTHRA;2NINETY;2RAIDA;2SAUIL;
2TEIWS;2WINJA;2FAIHU;2IGGWS;2HWAIR;2OTHAL;2NINE HUNDRED;=10350;0OLD PERMIC LETTER AN;3BUR;3GAI;3DOI;
3E;3ZHOI;3DZHOI;3ZATA;3DZITA;3I;3KOKE;3LEI;3MENOE;3NENOE;3VOOI;3PEEI;3REI;3SII;3TAI;3U;3CHERY;
3SHOOI;3SHCHOOI;3YRY;3YERU;3O;3OO;3EF;3HA;3TSIU;3VER;3YER;3YERI;3YAT;3IE;3YU;3YA;3IA;
0COMBINING OLD PERMIC LETTER AN;4DOI;4ZATA;4NENOE;4SII;=10380;0UGARITIC LETTER ALPA;2BETA;2GAMLA;
2KHA;2DELTA;2HO;2WO;2ZETA;2HOTA;2TET;2YOD;2KAF;2SHIN;2LAMDA;2MEM;2DHAL;2NUN;2ZU;2SAMKA;2AIN;2PU;
2SADE;2QOPA;2RASHA;2THANNA;2GHAIN;2TO;2I;2U;2SSU;=1039F;1WORD DIVIDER;0OLD PERSIAN SIGN A;3I;3U;3KA;
3KU;3GA;3GU;3XA;3CA;3JA;3JI;3TA;3TU;3DA;3DI;3DU;3THA;3PA;3BA;3FA;3NA;3NU;3MA;3MI;3MU;3YA;3VA;3VI;
3RA;3RU;3LA;3SA;3ZA;3SHA;3SSA;3HA;=103C8;3AURAMAZDAA;3AURAMAZDAA-2;3AURAMAZDAAHA;3XSHAAYATHIYA;
3DAHYAAUSH;3DAHYAAUSH-2;3BAGA;3BUUMISH;2WORD DIVIDER;2NUMBER ONE;3TWO;3TEN;3TWENTY;3HUNDRED;=10400;
0DESERET CAPITAL LETTER LONG I;4E;4A;4AH;4O;4OO;3SHORT I;4E;4A;4AH;4O;4OO;3AY;3OW;3WU;3YEE;3H;3PEE;
3BEE;3TEE;3DEE;3CHEE;3JEE;3KAY;3GAY;3EF;3VEE;3ETH;3THEE;3ES;3ZEE;3ESH;3ZHEE;3ER;3EL;3EM;3EN;3ENG;
3OI;3EW;1SMALL LETTER LONG I;4E;4A;4AH;4O;4OO;3SHORT I;4E;4A;4AH;4O;4OO;3AY;3OW;3WU;3YEE;3H;3PEE;
3BEE;3TEE;3DEE;3CHEE;3JEE;3KAY;3GAY;3EF;3VEE;3ETH;3THEE;3ES;3ZEE;3ESH;3ZHEE;3ER;3EL;3EM;3EN;3ENG;
3OI;3EW;0SHAVIAN LETTER PEEP;2TOT;2KICK;2FEE;2THIGH;2SO;2SURE;2CHURCH;2YEA;2HUNG;2BIB;2DEAD;2GAG;
2VOW;2THEY;2ZOO;2MEASURE;2JUDGE;2WOE;2HA-HA;2LOLL;2MIME;2IF;2EGG;2ASH;2ADO;2ON;2WOOL;2OUT;2AH;2ROAR;
2NUN;2EAT;2AGE;2ICE;2UP;2OAK;2OOZE;2OIL;2AWE;2ARE;2OR;2AIR;2ERR;2ARRAY;2EAR;2IAN;2YEW;
0OSMANYA LETTER ALEF;2BA;2TA;2JA;2XA;2KHA;2DEEL;2RA;2SA;2SHIIN;2DHA;2CAYN;2GA;2FA;2QAAF;2KAAF;2LAAN;
2MIIN;2NUUN;2WAW;2HA;2YA;2A;2E;2I;2O;2U;2AA;2EE;2OO;=104A0;1DIGIT ZERO;2ONE;2TWO;2THREE;2FOUR;2FIVE;
2SIX;2SEVEN;2EIGHT;2NINE;=104B0;0OSAGE CAPITAL LETTER A;3AI;3AIN;3AH;3BRA;3CHA;3EHCHA;3E;3EIN;3HA;
3HYA;3I;3KA;3EHKA;3KYA;3LA;3MA;3NA;3O;3OIN;3PA;3EHPA;3SA;3SHA;3TA;3EHTA;3TSA;3EHTSA;3TSHA;3DHA;3U;
3WA;3KHA;3GHA;3ZA;3ZHA;=104D8;1SMALL LETTER A;3AI;3AIN;3AH;3BRA;3CHA;3EHCHA;3E;3EIN;3HA;3HYA;3I;3KA;
3EHKA;3KYA;3LA;3MA;3NA;3O;3OIN;3PA;3EHPA;3SA;3SHA;3TA;3EHTA;3TSA;3EHTSA;3TSHA;3DHA;3U;3WA;3KHA;3GHA;
3ZA;3ZHA;=10500;0ELBASAN LETTER A;2BE;2CE;2CHE;2DE;2NDE;2DHE;2EI;2E;2FE;2GE;2GJE;2HE;2I;2JE;2KE;2LE;
2LLE;2ME;2NE;2NA;2NJE;2O;2PE;2QE;2RE;2RRE;2SE;2SHE;2TE;2THE;2U;2VE;2XE;2Y;2ZE;2ZHE;2GHE;2GHAMMA;
2KHE;=10530;0CAUCASIAN ALBANIAN LETTER ALT;3BET;3GIM;3DAT;3EB;3ZARL;3EYN;3ZHIL;3TAS;3CHA;3YOWD;3ZHA;
3IRB;3SHA;3LAN;3INYA;3XEYN;3DYAN;3CAR;3JHOX;3KAR;3LYIT;3HEYT;3QAY;3AOR;3CHOY;3CHI;3CYAY;3MAQ;3QAR;
3NOWC;3DZYAY;3SHAK;3JAYN;3ON;3TYAY;3FAM;3DZAY;3CHAT;3PEN;3GHEYS;3RAT;3SEYK;3VEYZ;3TIWR;3SHOY;3IWN;
3CYAW;3CAYN;3YAYD;3PIWR;3KIW;=1056F;2CITATION MARK;0VITHKUQI CAPITAL LETTER A;3BBE;3BE;3CE;3CHE;3DE;
3DHE;3EI;3E;3FE;3GA;=1057C;3HA;3HHA;3I;3IJE;3JE;3KA;3LA;3LLA;3ME;3NE;3NJE;3O;3PE;3QA;3RE;=1058C;3SE;
3SHE;3TE;3THE;3U;3VE;3XE;=10594;3Y;3ZE;=10597;1SMALL LETTER A;3BBE;3BE;3CE;3CHE;3DE;3DHE;3EI;3E;3FE;
3GA;=105A3;3HA;3HHA;3I;3IJE;3JE;3KA;3LA;3LLA;3ME;3NE;3NJE;3O;3PE;3QA;3RE;=105B3;3SE;3SHE;3TE;3THE;
3U;3VE;3XE;=105BB;3Y;3ZE;=10600;0LINEAR A SIGN AB001;3AB002;3AB003;3AB004;3AB005;3AB006;3AB007;
3AB008;3AB009;3AB010;3AB011;3AB013;3AB016;3AB017;3AB020;3AB021;3AB021F;3AB021M;3AB022;3AB022F;
3AB022M;3AB023;3AB023M;3AB024;3AB026;3AB027;3AB028;3A028B;3AB029;3AB030;3AB031;3AB034;3AB037;3AB038;
3AB039;3AB040;3AB041;3AB044;3AB045;3AB046;3AB047;3AB048;3AB049;3AB050;3AB051;3AB053;3AB054;3AB055;
3AB056;3AB057;3AB058;3AB059;3AB060;3AB061;3AB065;3AB066;3AB067;3AB069;3AB070;3AB073;3AB074;3AB076;
3AB077;3AB078;3AB079;3AB080;3AB081;3AB082;3AB085;3AB086;3AB087;3A100-102;3AB118;3AB120;3A120B;
3AB122;3AB123;3AB131A;3AB131B;3A131C;3AB164;3AB171;3AB180;3AB188;3AB191;3A301;3A302;3A303;3A304;
3A305;3A306;3A307;3A308;3A309A;3A309B;3A309C;3A310;3A311;3A312;3A313A;3A313B;3A313C;3A314;3A315;
3A316;3A317;3A318;3A319;3A320;3A321;3A322;3A323;3A324;3A325;3A326;3A327;3A328;3A329;3A330;3A331;
3A332;3A333;3A334;3A335;3A336;3A337;3A338;3A339;3A340;3A341;3A342;3A343;3A344;3A345;3A346;3A347;
3A348;3A349;3A350;3A351;3A352;3A353;3A354;3A355;3A356;3A357;3A358;3A359;3A360;3A361;3A362;3A363;
3A364;3A365;3A366;3A367;3A368;3A369;3A370;3A371;3A400-VAS;3A401-VAS;3A402-VAS;3A403-VAS;3A404-VAS;
3A405-VAS;3A406-VAS;3A407-VAS;3A408-VAS;3A409-VAS;3A410-VAS;3A411-VAS;3A412-VAS;3A413-VAS;3A414-VAS;
3A415-VAS;3A416-VAS;3A417-VAS;3A418-VAS;3A501;3A502;3A503;3A504;3A505;3A506;3A508;3A509;3A510;3A511;
3A512;3A513;3A515;3A516;3A520;3A521;3A523;3A524;3A525;3A526;3A527;3A528;3A529;3A530;3A531;3A532;
3A534;3A535;3A536;3A537;3A538;3A539;3A540;3A541;3A542;3A545;3A547;3A548;3A549;3A550;3A551;3A552;
3A553;3A554;3A555;3A556;3A557;3A559;3A563;3A564;3A565;3A566;3A568;3A569;3A570;3A571;3A572;3A573;
3A574;3A575;3A576;3A577;3A578;3A579;3A580;3A581;3A582;3A583;3A584;3A585;3A586;3A587;3A588;3A589;
3A591;3A592;3A594;3A595;3A596;3A598;3A600;3A601;3A602;3A603;3A604;3A606;3A608;3A609;3A610;3A611;
3A612;3A613;3A614;3A615;3A616;3A617;3A618;3A619;3A620;3A621;3A622;3A623;3A624;3A626;3A627;3A628;
3A629;3A634;3A637;3A638;3A640;3A642;3A643;3A644;3A645;3A646;3A648;3A649;3A651;3A652;3A653;3A654;
3A655;3A656;3A657;3A658;3A659;3A660;3A661;3A662;3A663;3A664;=10740;3A701 A;3A702 B;3A703 D;3A704 E;
3A705 F;3A706 H;3A707 J;3A708 K;3A709 L;3A709-2 L2;3A709-3 L3;3A709-4 L4;3A709-6 L6;3A710 W;3A711 X;
3A712 Y;3A713 OMEGA;3A714 ABB;3A715 BB;3A717 DD;3A726 EYYY;3A732 JE;=10760;3A800;3A801;3A802;3A803;
3A804;3A805;3A806;3A807;=12000;0CUNEIFORM SIGN A;3TIMES A;4BAD;4GAN2 TENU;4HA;4IGI;4LAGAR GUNU;
4MUSH;4SAG;2A2;2AB;3TIMES ASH2;4DUN3 GUNU;4GAL;4GAN2 TENU;4HA;4IGI GUNU;4IMIN;4LAGAB;4SHESH;
4U PLUS U PLUS U;3GUNU;2AB2;3TIMES BALAG;4GAN2 TENU;4ME PLUS EN;4SHA3;4TAK4;2AD;2AK;3TIMES ERIN2;
4SHITA PLUS GISH;2AL;3TIMES AL;4DIM2;4GISH;4HA;4KAD3;4KI;4SHE;4USH;2ALAN;2ALEPH;2AMAR;3TIMES SHE;
2AN;3OVER AN;3THREE TIMES;3PLUS NAGA OPPOSING AN PLUS NAGA;5SQUARED;2ANSHE;2APIN;2ARAD;3TIMES KUR;
2ARKAB;2ASAL2;2ASH;3ZIDA TENU;3KABA TENU;3OVER ASH TUG2 OVER TUG2 TUG2 OVER TUG2 PAP;5OVER ASH;
7CROSSING ASH OVER ASH OVER ASH;2ASH2;2ASHGAB;2BA;2BAD;2BAG3;2BAHAR2;2BAL;3OVER BAL;2BALAG;2BAR;
2BARA2;2BI;3TIMES A;4GAR;4IGI GUNU;2BU;3OVER BU AB;5UN;3CROSSING BU;2BULUG;3OVER BULUG;2BUR;2BUR2;
2DA;2DAG;3KISIM5 TIMES A PLUS MASH;5AMAR;5BALAG;5BI;5GA;6PLUS MASH;5GI;5GIR2;5GUD;5HA;5IR;6PLUS LU;
5KAK;5LA;5LU;6PLUS MASH2;5LUM;5NE;5PAP PLUS PAP;5SI;5TAK4;5U2 PLUS GIR2;5USH;2DAM;2DAR;2DARA3;
2DARA4;2DI;2DIB;2DIM;3TIMES SHE;2DIM2;2DIN;3KASKAL U GUNU DISH;2DISH;2DU;3OVER DU;3GUNU;3SHESHIG;
2DUB;3TIMES ESH2;2DUB2;2DUG;2DUGUD;2DUH;2DUN;2DUN3;3GUNU;4GUNU;2DUN4;2DUR2;2E;3TIMES PAP;
3OVER E NUN OVER NUN;2E2;3TIMES A PLUS HA PLUS DA;4GAR;4MI;4SAL;4SHE;4U;2EDIN;2EGIR;2EL;2EN;
3TIMES GAN2;5TENU;4ME;3CROSSING EN;3OPPOSING EN;3SQUARED;2EREN;2ERIN2;2ESH2;2EZEN;3TIMES A;
5PLUS LAL;7TIMES LAL;4AN;4BAD;4DUN3 GUNU;6GUNU;4HA;5GUNU;4IGI GUNU;4KASKAL;5SQUARED;4KU3;4LA;
4LAL TIMES LAL;4LI;4LU;4U2;4UD;2GA;3GUNU;2GA2;3TIMES A PLUS DA PLUS HA;6HA;6IGI;4AB2 TENU PLUS TAB;
4AN;4ASH;4ASH2 PLUS GAL;4BAD;4BAR PLUS RA;4BUR;5PLUS RA;4DA;4DI;4DIM TIMES SHE;4DUB;4EL;5PLUS LA;
4EN;5TIMES GAN2 TENU;4GAN2 TENU;4GAR;4GI;4GI4;5PLUS A;4GIR2 PLUS SU;4HA PLUS LU PLUS ESH2;4HAL;
5PLUS LA;4HI PLUS LI;4HUB2;4IGI GUNU;4ISH PLUS HU PLUS ASH;4KAK;4KASKAL;4KID;5PLUS LAL;4KU3 PLUS AN;
4LA;4ME PLUS EN;4MI;4NUN;5OVER NUN;4PA;4SAL;4SAR;4SHE;5PLUS TUR;4SHID;4SUM;4TAK4;4U;4UD;5PLUS DU;
3OVER GA2;2GABA;3CROSSING GABA;2GAD;3OVER GAD GAR OVER GAR;2GAL;3GAD OVER GAD GAR OVER GAR;2GALAM;
2GAM;2GAN;2GAN2;3TENU;3OVER GAN2;3CROSSING GAN2;2GAR;2GAR3;2GASHAN;2GESHTIN;3TIMES KUR;2GI;3TIMES E;
4U;3CROSSING GI;2GI4;3OVER GI4;3CROSSING GI4;2GIDIM;2GIR2;3GUNU;2GIR3;3TIMES A PLUS IGI;4GAN2 TENU;
4IGI;4LU PLUS IGI;4PA;2GISAL;2GISH;3CROSSING GISH;3TIMES BAD;4TAK4;3TENU;2GU;3CROSSING GU;2GU2;
3TIMES KAK;5TIMES IGI GUNU;4NUN;4SAL PLUS TUG2;3GUNU;2GUD;3TIMES A PLUS KUR;4KUR;3OVER GUD LUGAL;
2GUL;2GUM;3TIMES SHE;2GUR;2GUR7;2GURUN;2GURUSH;2HA;3TENU;3GUNU;2HAL;2HI;3TIMES ASH;4ASH2;4BAD;4DISH;
4GAD;4KIN;4NUN;4SHE;4U;2HU;2HUB2;3TIMES AN;4HAL;4KASKAL;4LISH;4UD;2HUL2;2I;3A;2IB;2IDIM;
3OVER IDIM BUR;5SQUARED;2IG;2IGI;3DIB;3RI;3OVER IGI SHIR OVER SHIR UD OVER UD;3GUNU;2IL;
3TIMES GAN2 TENU;2IL2;2IM;3TIMES TAK4;3CROSSING IM;3OPPOSING IM;3SQUARED;2IMIN;2IN;2IR;2ISH;2KA;
3TIMES A;4AD;5PLUS KU3;4ASH2;4BAD;4BALAG;4BAR;4BI;4ERIN2;4ESH2;4GA;4GAL;4GAN2 TENU;4GAR;
5PLUS SHA3 PLUS A;4GI;4GIR2;4GISH PLUS SAR;5CROSSING GISH;4GU;4GUR7;4IGI;4IM;4KAK;4KI;4KID;4LI;4LU;
4ME;5PLUS DU;6GI;6TE;4MI;5PLUS NUNUZ;4NE;4NUN;4PI;4RU;4SA;4SAR;4SHA;4SHE;4SHID;4SHU;4SIG;4SUHUR;
4TAR;4U;4U2;4UD;4UMUM TIMES PA;4USH;4ZI;2KA2;3CROSSING KA2;2KAB;2KAD2;2KAD3;2KAD4;2KAD5;3OVER KAD5;
2KAK;3TIMES IGI GUNU;2KAL;3TIMES BAD;3CROSSING KAL;2KAM2;2KAM4;2KASKAL;
3LAGAB TIMES U OVER LAGAB TIMES U;3OVER KASKAL LAGAB TIMES U OVER LAGAB TIMES U;2KESH2;2KI;
3TIMES BAD;4U;4UD;2KID;2KIN;2KISAL;2KISH;2KISIM5;3OVER KISIM5;2KU;
3OVER HI TIMES ASH2 KU OVER HI TIMES ASH2;2KU3;2KU4;3VARIANT FORM;2KU7;2KUL;3GUNU;2KUN;2KUR;
3OPPOSING KUR;2KUSHU2;2KWU318;2LA;2LAGAB;3TIMES A;5PLUS DA PLUS HA;6GAR;6LAL;4AL;4AN;4ASH ZIDA TENU;
4BAD;4BI;4DAR;4EN;4GA;4GAR;4GUD;5PLUS GUD;4HA;4HAL;4HI TIMES NUN;4IGI GUNU;4IM;5PLUS HA;6LU;4KI;
4KIN;4KU3;4KUL;5PLUS HI PLUS A;4LAGAB;4LISH;4LU;4LUL;4ME;5PLUS EN;4MUSH;4NE;4SHE PLUS SUM;
4SHITA PLUS GISH PLUS ERIN2;7TENU;4SHU2;5PLUS SHU2;4SUM;4TAG;4TAK4;4TE PLUS A PLUS SU PLUS NA;4U;
5PLUS A;6U PLUS U;4U2 PLUS ASH;4UD;4USH;3SQUARED;2LAGAR;3TIMES SHE;5PLUS SUM;3GUNU;
4OVER LAGAR GUNU SHE;2LAHSHU;2LAL;3TIMES LAL;2LAM;3TIMES KUR;5PLUS RU;2LI;2LIL;2LIMMU2;2LISH;2LU;
3TIMES BAD;2LU2;3TIMES AL;4BAD;4ESH2;5TENU;4GAN2 TENU;4HI TIMES BAD;4IM;4KAD2;4KAD3;5PLUS ASH;4KI;
4LA PLUS ASH;4LAGAB;4ME PLUS EN;4NE;4NU;4SI PLUS ASH;4SIK2 PLUS BU;4TUG2;3TENU;3CROSSING LU2;
3OPPOSING LU2;3SQUARED;3SHESHIG;2LU3;2LUGAL;3OVER LUGAL;3OPPOSING LUGAL;3SHESHIG;2LUH;2LUL;2LUM;
3OVER LUM;5GAR OVER GAR;2MA;3TIMES TAK4;3GUNU;2MA2;2MAH;2MAR;2MASH;2MASH2;2ME;2MES;2MI;2MIN;2MU;
3OVER MU;2MUG;3GUNU;2MUNSUB;2MURGU2;2MUSH;3TIMES A;4KUR;4ZA;3OVER MUSH;5TIMES A PLUS NA;
3CROSSING MUSH;2MUSH3;3TIMES A;5PLUS DI;4DI;3GUNU;2NA;2NA2;2NAGA;3INVERTED;3TIMES SHU TENU;
3OPPOSING NAGA;2NAGAR;2NAM NUTILLU;2NAM;2NAM2;2NE;3TIMES A;4UD;3SHESHIG;2NI;3TIMES E;2NI2;2NIM;
3TIMES GAN2 TENU;4GAR PLUS GAN2 TENU;2NINDA2;3TIMES AN;4ASH;5PLUS ASH;4GUD;4ME PLUS GAN2 TENU;4NE;
4NUN;4SHE;5PLUS A AN;6ASH;7PLUS ASH;4U2 PLUS ASH;4USH;2NISAG;2NU;2NU11;2NUN;3LAGAR TIMES GAR;5MASH;
5SAL;6OVER NUN LAGAR TIMES SAL;5USH;3TENU;3OVER NUN;3CROSSING NUN;5LAGAR OVER LAGAR;2NUNUZ;
3AB2 TIMES ASHGAB;5BI;5DUG;5GUD;5IGI GUNU;5KAD3;5LA;5NE;5SILA3;5U2;3KISIM5 TIMES BI;6U;2PA;2PAD;
2PAN;2PAP;2PESH2;2PI;3TIMES A;4AB;4BI;4BU;4E;4I;4IB;4U;4U2;3CROSSING PI;2PIRIG;3TIMES KAL;4UD;4ZA;
3OPPOSING PIRIG;2RA;2RAB;2RI;2RU;2SA;2SAG NUTILLU;2SAG;3TIMES A;4DU;4DUB;4HA;4KAK;4KUR;4LUM;4MI;
4NUN;4SAL;4SHID;4TAB;4U2;4UB;4UM;4UR;4USH;3OVER SAG;3GUNU;2SAL;3LAGAB TIMES ASH2;2SANGA2;2SAR;2SHA;
2SHA3;3TIMES A;4BAD;4GISH;4NE;4SHU2;4TUR;4U;5PLUS A;2SHA6;2SHAB6;2SHAR2;2SHE;3HU;
3OVER SHE GAD OVER GAD GAR OVER GAR;5TAB OVER TAB GAR OVER GAR;2SHEG9;2SHEN;2SHESH;2SHESH2;
2SHESHLAM;2SHID;3TIMES A;4IM;2SHIM;3TIMES A;4BAL;4BULUG;4DIN;4GAR;4IGI;5GUNU;4KUSHU2;4LUL;4MUG;4SAL;
2SHINIG;2SHIR;3TENU;3OVER SHIR BUR OVER BUR;2SHITA;2SHU;3OVER INVERTED SHU;2SHU2;2SHUBUR;2SI;3GUNU;
2SIG;2SIG4;3OVER SIG4 SHU2;2SIK2;2SILA3;2SU;3OVER SU;2SUD;2SUD2;2SUHUR;2SUM;2SUMASH;2SUR;2SUR9;2TA;
3ASTERISK;3TIMES HI;4MI;3GUNU;2TAB;3OVER TAB NI OVER NI DISH OVER DISH;3SQUARED;2TAG;3TIMES BI;4GUD;
4SHE;4SHU;4TUG2;4UD;2TAK4;2TAR;2TE;3GUNU;2TI;3TENU;2TIL;2TIR;3TIMES TAK4;3OVER TIR;
5GAD OVER GAD GAR OVER GAR;2TU;2TUG2;2TUK;2TUM;2TUR;3OVER TUR ZA OVER ZA;2U;3GUD;3U U;
3OVER U PA OVER PA GAR OVER GAR;5SUR OVER SUR;5U REVERSED OVER U REVERSED;2U2;2UB;2UD;3KUSHU2;
3TIMES BAD;4MI;4U PLUS U PLUS U;9GUNU;3GUNU;3SHESHIG;4TIMES BAD;2UDUG;2UM;3TIMES LAGAB;4ME PLUS DA;
4SHA3;4U;2UMBIN;2UMUM;3TIMES KASKAL;4PA;2UN;3GUNU;2UR;3CROSSING UR;3SHESHIG;2UR2;3TIMES A PLUS HA;
6NA;4AL;4HA;4NUN;4U2;5PLUS ASH;6BI;2UR4;2URI;2URI3;2URU;3TIMES A;4ASHGAB;4BAR;4DUN;4GA;4GAL;
4GAN2 TENU;4GAR;4GU;4HA;4IGI;4IM;4ISH;4KI;4LUM;4MIN;4PA;4SHE;4SIG4;4TU;4U PLUS GUD;4UD;4URUDA;
2URUDA;3TIMES U;2USH;3TIMES A;4KU;4KUR;4TAK4;2USHX;2USH2;2USHUMX;2UTUKI;2UZ3;3TIMES KASKAL;2UZU;2ZA;
3TENU;3SQUARED TIMES KUR;2ZAG;2ZAMX;2ZE2;2ZI;3OVER ZI;2ZI3;2ZIB;3KABA TENU;2ZIG;2ZIZ2;2ZU;2ZU5;
3TIMES A;2ZUBUR;2ZUM;2KAP ELAMITE;2AB TIMES NUN;2AB2 TIMES A;2AMAR TIMES KUG;
2DAG KISIM5 TIMES U2 PLUS MASH;2DAG3;2DISH PLUS SHU;2DUB TIMES SHE;2EZEN TIMES GUD;4SHE;
2GA2 TIMES AN PLUS KAK PLUS A;4ASH2;2GE22;2GIG;2HUSH;2KA TIMES ANSHE;4ASH3;4GISH;4GUD;
4HI TIMES ASH2;4LUM;4PA;4SHUL;4TU;4UR2;2LAGAB TIMES GI;2LU2 SHESHIG TIMES BAD;3TIMES ESH2 PLUS LAL;
4SHU;2MESH;2MUSH3 TIMES ZA;2NA4;2NIN;2NIN9;2NINDA2 TIMES BAL;4GI;2NU11 ROTATED NINETY DEGREES;
2PESH2 ASTERISK;2PIR2;2SAG TIMES IGI GUNU;2TI2;2UM TIMES ME;2U U;=12400;1NUMERIC SIGN TWO ASH;
3THREE ASH;3FOUR ASH;3FIVE ASH;3SIX ASH;3SEVEN ASH;3EIGHT ASH;3NINE ASH;3THREE DISH;3FOUR DISH;
3FIVE DISH;3SIX DISH;3SEVEN DISH;3EIGHT DISH;3NINE DISH;3FOUR U;3FIVE U;3SIX U;3SEVEN U;3EIGHT U;
3NINE U;3ONE GESH2;3TWO GESH2;3THREE GESH2;3FOUR GESH2;3FIVE GESH2;3SIX GESH2;3SEVEN GESH2;
3EIGHT GESH2;3NINE GESH2;3ONE GESHU;3TWO GESHU;3THREE GESHU;3FOUR GESHU;3FIVE GESHU;3TWO SHAR2;
3THREE SHAR2;5VARIANT FORM;3FOUR SHAR2;3FIVE SHAR2;3SIX SHAR2;3SEVEN SHAR2;3EIGHT SHAR2;3NINE SHAR2;
3ONE SHARU;3TWO SHARU;3THREE SHARU;5VARIANT FORM;3FOUR SHARU;3FIVE SHARU;3SHAR2 TIMES GAL PLUS DISH;
7MIN;3ONE BURU;3TWO BURU;3THREE BURU;5VARIANT FORM;3FOUR BURU;3FIVE BURU;3THREE VARIANT FORM ESH16;
6ESH21;3FOUR VARIANT FORM LIMMU;6LIMMU4;6LIMMU A;7B;3SIX VARIANT FORM ASH9;
3SEVEN VARIANT FORM IMIN3;6IMIN A;7B;3EIGHT VARIANT FORM USSU;6USSU3;3NINE VARIANT FORM ILIMMU;
6ILIMMU3;6ILIMMU4;6ILIMMU A;3TWO ASH TENU;3THREE ASH TENU;3FOUR ASH TENU;3FIVE ASH TENU;
3SIX ASH TENU;3ONE BAN2;3TWO BAN2;3THREE BAN2;3FOUR BAN2;5VARIANT FORM;3FIVE BAN2;5VARIANT FORM;
3NIGIDAMIN;3NIGIDAESH;3ONE ESHE3;3TWO ESHE3;3ONE THIRD DISH;3TWO THIRDS DISH;3FIVE SIXTHS DISH;
3ONE THIRD VARIANT FORM A;3TWO THIRDS VARIANT FORM A;3ONE EIGHTH ASH;4QUARTER ASH;
3OLD ASSYRIAN ONE SIXTH;6QUARTER;3ONE QUARTER GUR;4HALF GUR;3ELAMITE ONE THIRD;4TWO THIRDS;4FORTY;
4FIFTY;3FOUR U VARIANT FORM;3FIVE U VARIANT FORM;3SIX U VARIANT FORM;3SEVEN U VARIANT FORM;
3EIGHT U VARIANT FORM;3NINE U VARIANT FORM;=12470;1PUNCTUATION SIGN OLD ASSYRIAN WORD DIVIDER;
3VERTICAL COLON;3DIAGONAL COLON;4TRICOLON;4QUADCOLON;=12480;1SIGN AB TIMES NUN TENU;4SHU2;
2AD TIMES ESH2;2BAD TIMES DISH TENU;2BAHAR2 TIMES AB2;4NI;4ZA;2BU OVER BU TIMES NA2;2DA TIMES TAK4;
2DAG TIMES KUR;2DIM TIMES IGI;4U U U;2DIM2 TIMES UD;2DUG TIMES ANSHE;4ASH;5AT LEFT;4DIN;4DUN;4ERIN2;
4GA;4GI;4GIR2 GUNU;4GISH;4HA;4HI;4IGI GUNU;4KASKAL;4KUR;4KUSHU2;5PLUS KASKAL;4LAK-020;4LAM;
5TIMES KUR;4LUH PLUS GISH;4MASH;4MES;4MI;4NI;4PI;4SHE;4SI GUNU;2E2 TIMES KUR;4PAP;2ERIN2 X;
2ESH2 CROSSING ESH2;2EZEN SHESHIG TIMES ASH;5HI;5IGI GUNU;5LA;5LAL;5ME;5MES;5SU;3TIMES SU;
2GA2 TIMES BAHAR2;4DIM GUNU;4DUG TIMES IGI GUNU;6KASKAL;4EREN;4GA;4GAR PLUS DI;6NE;4HA PLUS A;
4KUSHU2 PLUS KASKAL;4LAM;5TIMES KUR;4LUH;4MUSH;4NE;5PLUS E2;6GI;4SHIM;4ZIZ2;
2GABA ROTATED NINETY DEGREES;2GESHTIN TIMES U;2GISH TIMES GISH CROSSING GISH;2GU2 TIMES IGI GUNU;
2GUD PLUS GISH TIMES TAK4;2HA TENU GUNU;2HI TIMES ASH OVER HI TIMES ASH;2KA TIMES BU;4KA;4U U U;4UR;
2LAGAB TIMES ZU OVER ZU;2LAK-003;2LAK-021;2LAK-025;2LAK-030;2LAK-050;2LAK-051;2LAK-062;
2LAK-079 OVER LAK-079 GUNU;2LAK-080;2LAK-081 OVER LAK-081;2LAK-092;2LAK-130;2LAK-142;2LAK-210;
2LAK-219;2LAK-220;2LAK-225;2LAK-228;2LAK-238;2LAK-265;2LAK-266;2LAK-343;2LAK-347;2LAK-348;2LAK-383;
2LAK-384;2LAK-390;2LAK-441;2LAK-449;3TIMES GU;4IGI;4PAP PLUS LU3;6PAP PLUS LU3;4U2 PLUS BA;2LAK-450;
2LAK-457;2LAK-470;2LAK-483;2LAK-490;2LAK-492;2LAK-493;2LAK-495;2LAK-550;2LAK-608;2LAK-617;
3TIMES ASH;4BAD;4DUN3 GUNU GUNU;4KU3;4LA;4TAR;4TE;4U2;4UD;4URUDA;2LAK-636;2LAK-648;3TIMES DUB;4GA;
4IGI;5GUNU;4NI;4PAP PLUS PAP PLUS LU3;4SHESH PLUS KI;4UD;4URUDA;2LAK-724;2LAK-749;
2LU2 GUNU TIMES ASH;3TIMES DISH;4HAL;4PAP;5PLUS PAP PLUS LU3;4TAK4;2MI PLUS ZA7;
2MUSH OVER MUSH TIMES GA;6KAK;2NINDA2 TIMES DIM GUNU;4GISH;4GUL;4HI;4KESH2;4LAK-050;4MASH;
4PAP PLUS PAP;4U;5PLUS U;4URUDA;2SAG GUNU TIMES HA;3TIMES EN;4SHE AT LEFT;4TAK4;2SHA6 TENU;
2SHE OVER SHE;3PLUS HUB2;4NAM2;4SAR;2SHU2 PLUS DUG TIMES NI;4E2 TIMES AN;2SI TIMES TAK4;
2TAK4 PLUS SAG;2TUM TIMES GAN2 TENU;4THREE DISH;2UR2 INVERTED;3TIMES UD;2URU TIMES DARA3;4LAK-668;
4LU3;2ZA7;2ZU OVER ZU PLUS SAR;2ZU5 TIMES THREE DISH TENU;=12F90;0CYPRO-MINOAN SIGN CM001;2CM002;
2CM004;2CM005;2CM006;2CM007;2CM008;2CM009;2CM010;2CM011;2CM012;2CM012B;2CM013;2CM015;2CM017;2CM019;
2CM021;2CM023;2CM024;2CM025;2CM026;2CM027;2CM028;2CM029;2CM030;2CM033;2CM034;2CM035;2CM036;2CM037;
2CM038;2CM039;2CM040;2CM041;2CM044;2CM046;2CM047;2CM049;2CM050;2CM051;2CM052;2CM053;2CM054;2CM055;
2CM056;2CM058;2CM059;2CM060;2CM061;2CM062;2CM063;2CM064;2CM066;2CM067;2CM068;2CM069;2CM070;2CM071;
2CM072;2CM073;2CM074;2CM075;2CM075B;2CM076;2CM078;2CM079;2CM080;2CM081;2CM082;2CM083;2CM084;2CM085;
2CM086;2CM087;2CM088;2CM089;2CM090;2CM091;2CM092;2CM094;2CM095;2CM096;2CM097;2CM098;2CM099;2CM100;
2CM101;2CM102;2CM103;2CM104;2CM105;2CM107;2CM108;2CM109;2CM110;2CM112;2CM114;2CM301;2CM302;=13000;
0EGYPTIAN HIEROGLYPH A001;2A002;2A003;2A004;2A005;2A005A;2A006;2A006A;2A006B;2A007;2A008;2A009;
2A010;2A011;2A012;2A013;2A014;2A014A;2A015;2A016;2A017;2A017A;2A018;2A019;2A020;2A021;2A022;2A023;
2A024;2A025;2A026;2A027;2A028;2A029;2A030;2A031;2A032;2A032A;2A033;2A034;2A035;2A036;2A037;2A038;
2A039;2A040;2A040A;2A041;2A042;2A042A;2A043;2A043A;2A044;2A045;2A045A;2A046;2A047;2A048;2A049;2A050;
2A051;2A052;2A053;2A054;2A055;2A056;2A057;2A058;2A059;2A060;2A061;2A062;2A063;2A064;2A065;2A066;
2A067;2A068;2A069;2A070;2B001;2B002;2B003;2B004;2B005;2B005A;2B006;2B007;2B008;2B009;2C001;2C002;
2C002A;2C002B;2C002C;2C003;2C004;2C005;2C006;2C007;2C008;2C009;2C010;2C010A;2C011;2C012;2C013;2C014;
2C015;2C016;2C017;2C018;2C019;2C020;2C021;2C022;2C023;2C024;2D001;2D002;2D003;2D004;2D005;2D006;
2D007;2D008;2D008A;2D009;2D010;2D011;2D012;2D013;2D014;2D015;2D016;2D017;2D018;2D019;2D020;2D021;
2D022;2D023;2D024;2D025;2D026;2D027;2D027A;2D028;2D029;2D030;2D031;2D031A;2D032;2D033;2D034;2D034A;
2D035;2D036;2D037;2D038;2D039;2D040;2D041;2D042;2D043;2D044;2D045;2D046;2D046A;2D047;2D048;2D048A;
2D049;2D050;2D050A;2D050B;2D050C;2D050D;2D050E;2D050F;2D050G;2D050H;2D050I;2D051;2D052;2D052A;2D053;
2D054;2D054A;2D055;2D056;2D057;2D058;2D059;2D060;2D061;2D062;2D063;2D064;2D065;2D066;2D067;2D067A;
2D067B;2D067C;2D067D;2D067E;2D067F;2D067G;2D067H;2E001;2E002;2E003;2E004;2E005;2E006;2E007;2E008;
2E008A;2E009;2E009A;2E010;2E011;2E012;2E013;2E014;2E015;2E016;2E016A;2E017;2E017A;2E018;2E019;2E020;
2E020A;2E021;2E022;2E023;2E024;2E025;2E026;2E027;2E028;2E028A;2E029;2E030;2E031;2E032;2E033;2E034;
2E034A;2E036;2E037;2E038;2F001;2F001A;2F002;2F003;2F004;2F005;2F006;2F007;2F008;2F009;2F010;2F011;
2F012;2F013;2F013A;2F014;2F015;2F016;2F017;2F018;2F019;2F020;2F021;2F021A;2F022;2F023;2F024;2F025;
2F026;2F027;2F028;2F029;2F030;2F031;2F031A;2F032;2F033;2F034;2F035;2F036;2F037;2F037A;2F038;2F038A;
2F039;2F040;2F041;2F042;2F043;2F044;2F045;2F045A;2F046;2F046A;2F047;2F047A;2F048;2F049;2F050;2F051;
2F051A;2F051B;2F051C;2F052;2F053;2G001;2G002;2G003;2G004;2G005;2G006;2G006A;2G007;2G007A;2G007B;
2G008;2G009;2G010;2G011;2G011A;2G012;2G013;2G014;2G015;2G016;2G017;2G018;2G019;2G020;2G020A;2G021;
2G022;2G023;2G024;2G025;2G026;2G026A;2G027;2G028;2G029;2G030;2G031;2G032;2G033;2G034;2G035;2G036;
2G036A;2G037;2G037A;2G038;2G039;2G040;2G041;2G042;2G043;2G043A;2G044;2G045;2G045A;2G046;2G047;2G048;
2G049;2G050;2G051;2G052;2G053;2G054;2H001;2H002;2H003;2H004;2H005;2H006;2H006A;2H007;2H008;2I001;
2I002;2I003;2I004;2I005;2I005A;2I006;2I007;2I008;2I009;2I009A;2I010;2I010A;2I011;2I011A;2I012;2I013;
2I014;2I015;2K001;2K002;2K003;2K004;2K005;2K006;2K007;2K008;2L001;2L002;2L002A;2L003;2L004;2L005;
2L006;2L006A;2L007;2L008;2M001;2M001A;2M001B;2M002;2M003;2M003A;2M004;2M005;2M006;2M007;2M008;2M009;
2M010;2M010A;2M011;2M012;2M012A;2M012B;2M012C;2M012D;2M012E;2M012F;2M012G;2M012H;2M013;2M014;2M015;
2M015A;2M016;2M016A;2M017;2M017A;2M018;2M019;2M020;2M021;2M022;2M022A;2M023;2M024;2M024A;2M025;
2M026;2M027;2M028;2M028A;2M029;2M030;2M031;2M031A;2M032;2M033;2M033A;2M033B;2M034;2M035;2M036;2M037;
2M038;2M039;2M040;2M040A;2M041;2M042;2M043;2M044;2N001;2N002;2N003;2N004;2N005;2N006;2N007;2N008;
2N009;2N010;2N011;2N012;2N013;2N014;2N015;2N016;2N017;2N018;2N018A;2N018B;2N019;2N020;2N021;2N022;
2N023;2N024;2N025;2N025A;2N026;2N027;2N028;2N029;2N030;2N031;2N032;2N033;2N033A;2N034;2N034A;2N035;
2N035A;2N036;2N037;2N037A;2N038;2N039;2N040;2N041;2N042;2NL001;2NL002;2NL003;2NL004;2NL005;2NL005A;
2NL006;2NL007;2NL008;2NL009;2NL010;2NL011;2NL012;2NL013;2NL014;2NL015;2NL016;2NL017;2NL017A;2NL018;
2NL019;2NL020;2NU001;2NU002;2NU003;2NU004;2NU005;2NU006;2NU007;2NU008;2NU009;2NU010;2NU010A;2NU011;
2NU011A;2NU012;2NU013;2NU014;2NU015;2NU016;2NU017;2NU018;2NU018A;2NU019;2NU020;2NU021;2NU022;
2NU022A;2O001;2O001A;2O002;2O003;2O004;2O005;2O005A;2O006;2O006A;2O006B;2O006C;2O006D;2O006E;2O006F;
2O007;2O008;2O009;2O010;2O010A;2O010B;2O010C;2O011;2O012;2O013;2O014;2O015;2O016;2O017;2O018;2O019;
2O019A;2O020;2O020A;2O021;2O022;2O023;2O024;2O024A;2O025;2O025A;2O026;2O027;2O028;2O029;2O029A;
2O030;2O030A;2O031;2O032;2O033;2O033A;2O034;2O035;2O036;2O036A;2O036B;2O036C;2O036D;2O037;2O038;
2O039;2O040;2O041;2O042;2O043;2O044;2O045;2O046;2O047;2O048;2O049;2O050;2O050A;2O050B;2O051;2P001;
2P001A;2P002;2P003;2P003A;2P004;2P005;2P006;2P007;2P008;2P009;2P010;2P011;2Q001;2Q002;2Q003;2Q004;
2Q005;2Q006;2Q007;2R001;2R002;2R002A;2R003;2R003A;2R003B;2R004;2R005;2R006;2R007;2R008;2R009;2R010;
2R010A;2R011;2R012;2R013;2R014;2R015;2R016;2R016A;2R017;2R018;2R019;2R020;2R021;2R022;2R023;2R024;
2R025;2R026;2R027;2R028;2R029;2S001;2S002;2S002A;2S003;2S004;2S005;2S006;2S006A;2S007;2S008;2S009;
2S010;2S011;2S012;2S013;2S014;2S014A;2S014B;2S015;2S016;2S017;2S017A;2S018;2S019;2S020;2S021;2S022;
2S023;2S024;2S025;2S026;2S026A;2S026B;2S027;2S028;2S029;2S030;2S031;2S032;2S033;2S034;2S035;2S035A;
2S036;2S037;2S038;2S039;2S040;2S041;2S042;2S043;2S044;2S045;2S046;2T001;2T002;2T003;2T003A;2T004;
2T005;2T006;2T007;2T007A;2T008;2T008A;2T009;2T009A;2T010;2T011;2T011A;2T012;2T013;2T014;2T015;2T016;
2T016A;2T017;2T018;2T019;2T020;2T021;2T022;2T023;2T024;2T025;2T026;2T027;2T028;2T029;2T030;2T031;
2T032;2T032A;2T033;2T033A;2T034;2T035;2T036;2U001;2U002;2U003;2U004;2U005;2U006;2U006A;2U006B;2U007;
2U008;2U009;2U010;2U011;2U012;2U013;2U014;2U015;2U016;2U017;2U018;2U019;2U020;2U021;2U022;2U023;
2U023A;2U024;2U025;2U026;2U027;2U028;2U029;2U029A;2U030;2U031;2U032;2U032A;2U033;2U034;2U035;2U036;
2U037;2U038;2U039;2U040;2U041;2U042;2V001;2V001A;2V001B;2V001C;2V001D;2V001E;2V001F;2V001G;2V001H;
2V001I;2V002;2V002A;2V003;2V004;2V005;2V006;2V007;2V007A;2V007B;2V008;2V009;2V010;2V011;2V011A;
2V011B;2V011C;2V012;2V012A;2V012B;2V013;2V014;2V015;2V016;2V017;2V018;2V019;2V020;2V020A;2V020B;
2V020C;2V020D;2V020E;2V020F;2V020G;2V020H;2V020I;2V020J;2V020K;2V020L;2V021;2V022;2V023;2V023A;
2V024;2V025;2V026;2V027;2V028;2V028A;2V029;2V029A;2V030;2V030A;2V031;2V031A;2V032;2V033;2V033A;
2V034;2V035;2V036;2V037;2V037A;2V038;2V039;2V040;2V040A;2W001;2W002;2W003;2W003A;2W004;2W005;2W006;
2W007;2W008;2W009;2W009A;2W010;2W010A;2W011;2W012;2W013;2W014;2W014A;2W015;2W016;2W017;2W017A;2W018;
2W018A;2W019;2W020;2W021;2W022;2W023;2W024;2W024A;2W025;2X001;2X002;2X003;2X004;2X004A;2X004B;2X005;
2X006;2X006A;2X007;2X008;2X008A;2Y001;2Y001A;2Y002;2Y003;2Y004;2Y005;2Y006;2Y007;2Y008;2Z001;2Z002;
2Z002A;2Z002B;2Z002C;2Z002D;2Z003;2Z003A;2Z003B;2Z004;2Z004A;2Z005;2Z005A;2Z006;2Z007;2Z008;2Z009;
2Z010;2Z011;2Z012;2Z013;2Z014;2Z015;2Z015A;2Z015B;2Z015C;2Z015D;2Z015E;2Z015F;2Z015G;2Z015H;2Z015I;
2Z016;2Z016A;2Z016B;2Z016C;2Z016D;2Z016E;2Z016F;2Z016G;2Z016H;2AA001;2AA002;2AA003;2AA004;2AA005;
2AA006;2AA007;2AA007A;2AA007B;2AA008;2AA009;2AA010;2AA011;2AA012;2AA013;2AA014;2AA015;2AA016;2AA017;
2AA018;2AA019;2AA020;2AA021;2AA022;2AA023;2AA024;2AA025;2AA026;2AA027;2AA028;2AA029;2AA030;2AA031;
2AA032;=13430;2VERTICAL JOINER;2HORIZONTAL JOINER;2INSERT AT TOP START;4BOTTOM START;4TOP END;
4BOTTOM END;2OVERLAY MIDDLE;2BEGIN SEGMENT;2END SEGMENT;=14400;0ANATOLIAN HIEROGLYPH A001;2A002;
2A003;2A004;2A005;2A006;2A007;2A008;2A009;2A010;2A010A;2A011;2A012;2A013;2A014;2A015;2A016;2A017;
2A018;2A019;2A020;2A021;2A022;2A023;2A024;2A025;2A026;2A026A;2A027;2A028;2A029;2A030;2A031;2A032;
2A033;2A034;2A035;2A036;2A037;2A038;2A039;2A039A;2A040;2A041;2A041A;2A042;2A043;2A044;2A045;2A045A;
2A046;2A046A;2A046B;2A047;2A048;2A049;2A050;2A051;2A052;2A053;2A054;2A055;2A056;2A057;2A058;2A059;
2A060;2A061;2A062;2A063;2A064;2A065;2A066;2A066A;2A066B;2A066C;2A067;2A068;2A069;2A070;2A071;2A072;
2A073;2A074;2A075;2A076;2A077;2A078;2A079;2A080;2A081;2A082;2A083;2A084;2A085;2A086;2A087;2A088;
2A089;2A090;2A091;2A092;2A093;2A094;2A095;2A096;2A097;2A097A;2A098;2A098A;2A099;2A100;2A100A;2A101;
2A101A;2A102;2A102A;2A103;2A104;2A104A;2A104B;2A104C;2A105;2A105A;2A105B;2A106;2A107;2A107A;2A107B;
2A107C;2A108;2A109;2A110;2A110A;2A110B;2A111;2A112;2A113;2A114;2A115;2A115A;2A116;2A117;2A118;2A119;
2A120;2A121;2A122;2A123;2A124;2A125;2A125A;2A126;2A127;2A128;2A129;2A130;2A131;2A132;2A133;2A134;
2A135;2A135A;2A136;2A137;2A138;2A139;2A140;2A141;2A142;2A143;2A144;2A145;2A146;2A147;2A148;2A149;
2A150;2A151;2A152;2A153;2A154;2A155;2A156;2A157;2A158;2A159;2A160;2A161;2A162;2A163;2A164;2A165;
2A166;2A167;2A168;2A169;2A170;2A171;2A172;2A173;2A174;2A175;2A176;2A177;2A178;2A179;2A180;2A181;
2A182;2A183;2A184;2A185;2A186;2A187;2A188;2A189;2A190;2A191;2A192;2A193;2A194;2A195;2A196;2A197;
2A198;2A199;2A200;2A201;2A202;2A202A;2A202B;2A203;2A204;2A205;2A206;2A207;2A207A;2A208;2A209;2A209A;
2A210;2A211;2A212;2A213;2A214;2A215;2A215A;2A216;2A216A;2A217;2A218;2A219;2A220;2A221;2A222;2A223;
2A224;2A225;2A226;2A227;2A227A;2A228;2A229;2A230;2A231;2A232;2A233;2A234;2A235;2A236;2A237;2A238;
2A239;2A240;2A241;2A242;2A243;2A244;2A245;2A246;2A247;2A248;2A249;2A250;2A251;2A252;2A253;2A254;
2A255;2A256;2A257;2A258;2A259;2A260;2A261;2A262;2A263;2A264;2A265;2A266;2A267;2A267A;2A268;2A269;
2A270;2A271;2A272;2A273;2A274;2A275;2A276;2A277;2A278;2A279;2A280;2A281;2A282;2A283;2A284;2A285;
2A286;2A287;2A288;2A289;2A289A;2A290;2A291;2A292;2A293;2A294;2A294A;2A295;2A296;2A297;2A298;2A299;
2A299A;2A300;2A301;2A302;2A303;2A304;2A305;2A306;2A307;2A308;2A309;2A309A;2A310;2A311;2A312;2A313;
2A314;2A315;2A316;2A317;2A318;2A319;2A320;2A321;2A322;2A323;2A324;2A325;2A326;2A327;2A328;2A329;
2A329A;2A330;2A331;2A332A;2A332B;2A332C;2A333;2A334;2A335;2A336;2A336A;2A336B;2A336C;2A337;2A338;
2A339;2A340;2A341;2A342;2A343;2A344;2A345;2A346;2A347;2A348;2A349;2A350;2A351;2A352;2A353;2A354;
2A355;2A356;2A357;2A358;2A359;2A359A;2A360;2A361;2A362;2A363;2A364;2A364A;2A365;2A366;2A367;2A368;
2A368A;2A369;2A370;2A371;2A371A;2A372;2A373;2A374;2A375;2A376;2A377;2A378;2A379;2A380;2A381;2A381A;
2A382;2A383 RA OR RI;2A383A;2A384;2A385;2A386;2A386A;2A387;2A388;2A389;2A390;2A391;2A392;
2A393 EIGHT;2A394;2A395;2A396;2A397;2A398;2A399;2A400;2A401;2A402;2A403;2A404;2A405;2A406;2A407;
2A408;2A409;2A410 BEGIN LOGOGRAM MARK;2A410A END LOGOGRAM MARK;2A411;2A412;2A413;2A414;2A415;2A416;
2A417;2A418;2A419;2A420;2A421;2A422;2A423;2A424;2A425;2A426;2A427;2A428;2A429;2A430;2A431;2A432;
2A433;2A434;2A435;2A436;2A437;2A438;2A439;2A440;2A441;2A442;2A443;2A444;2A445;2A446;2A447;2A448;
2A449;2A450;2A450A;2A451;2A452;2A453;2A454;2A455;2A456;2A457;2A457A;2A458;2A459;2A460;2A461;2A462;
2A463;2A464;2A465;2A466;2A467;2A468;2A469;2A470;2A471;2A472;2A473;2A474;2A475;2A476;2A477;2A478;
2A479;2A480;2A481;2A482;2A483;2A484;2A485;2A486;2A487;2A488;2A489;2A490;2A491;2A492;2A493;2A494;
2A495;2A496;2A497;2A501;2A502;2A503;2A504;2A505;2A506;2A507;2A508;2A509;2A510;2A511;2A512;2A513;
2A514;2A515;2A516;2A517;2A518;2A519;2A520;2A521;2A522;2A523;2A524;2A525;2A526;2A527;2A528;2A529;
2A530;"

/-- Further names. -/
def furtherNames : String := "
=0;0NULL;=0;0NUL;=1;0START OF HEADING;=1;0SOH;=2;0START OF TEXT;=2;0STX;=3;0END OF TEXT;=3;0ETX;
=4;0END OF TRANSMISSION;=4;0EOT;=5;0ENQUIRY;=5;0ENQ;=6;0ACKNOWLEDGE;=6;0ACK;=7;0ALERT;=7;0BEL;
=8;0BACKSPACE;=8;0BS;=9;0CHARACTER TABULATION;=9;0HORIZONTAL TABULATION;=9;0HT;=9;0TAB;
=A;0LINE FEED;=A;0NEW LINE;=A;0END OF LINE;=A;0EOL;=A;0LF;=A;0NL;=B;0LINE TABULATION;
=B;0VERTICAL TABULATION;=B;0VT;=C;0FORM FEED;=C;0FF;=D;0CARRIAGE RETURN;=D;0CR;=E;0SHIFT OUT;
=E;0LOCKING-SHIFT ONE;=E;0SO;=F;0SHIFT IN;=F;0LOCKING-SHIFT ZERO;=F;0SI;=10;0DATA LINK ESCAPE;
=10;0DLE;=11;0DEVICE CONTROL ONE;=11;0DC1;=12;0DEVICE CONTROL TWO;=12;0DC2;
=13;0DEVICE CONTROL THREE;=13;0DC3;=14;0DEVICE CONTROL FOUR;=14;0DC4;=15;0NEGATIVE ACKNOWLEDGE;
=15;0NAK;=16;0SYNCHRONOUS IDLE;=16;0SYN;=17;0END OF TRANSMISSION BLOCK;=17;0ETB;=18;0CANCEL;
=18;0CAN;=19;0END OF MEDIUM;=19;0EOM;=1A;0SUBSTITUTE;=1A;0SUB;=1B;0ESCAPE;=1B;0ESC;
=1C;0INFORMATION SEPARATOR FOUR;=1C;0FILE SEPARATOR;=1C;0FS;=1D;0INFORMATION SEPARATOR THREE;
=1D;0GROUP SEPARATOR;=1D;0GS;=1E;0INFORMATION SEPARATOR TWO;=1E;0RECORD SEPARATOR;=1E;0RS;
=1F;0INFORMATION SEPARATOR ONE;=1F;0UNIT SEPARATOR;=1F;0US;=20;0SP;=7F;0DELETE;=7F;0DEL;
=80;0PADDING CHARACTER;=80;0PAD;=81;0HIGH OCTET PRESET;=81;0HOP;=82;0BREAK PERMITTED HERE;=82;0BPH;
=83;0NO BREAK HERE;=83;0NBH;=84;0INDEX;=84;0IND;=85;0NEXT LINE;=85;0NEL;=86;0START OF SELECTED AREA;
=86;0SSA;=87;0END OF SELECTED AREA;=87;0ESA;=88;0CHARACTER TABULATION SET;
=88;0HORIZONTAL TABULATION SET;=88;0HTS;=89;0CHARACTER TABULATION WITH JUSTIFICATION;
=89;0HORIZONTAL TABULATION WITH JUSTIFICATION;=89;0HTJ;=8A;0LINE TABULATION SET;
=8A;0VERTICAL TABULATION SET;=8A;0VTS;=8B;0PARTIAL LINE FORWARD;=8B;0PARTIAL LINE DOWN;=8B;0PLD;
=8C;0PARTIAL LINE BACKWARD;=8C;0PARTIAL LINE UP;=8C;0PLU;=8D;0REVERSE LINE FEED;=8D;0REVERSE INDEX;
=8D;0RI;=8E;0SINGLE SHIFT TWO;=8E;0SINGLE-SHIFT-2;=8E;0SS2;=8F;0SINGLE SHIFT THREE;
=8F;0SINGLE-SHIFT-3;=8F;0SS3;=90;0DEVICE CONTROL STRING;=90;0DCS;=91;0PRIVATE USE ONE;
=91;0PRIVATE USE-1;=91;0PU1;=92;0PRIVATE USE TWO;=92;0PRIVATE USE-2;=92;0PU2;
=93;0SET TRANSMIT STATE;=93;0STS;=94;0CANCEL CHARACTER;=94;0CCH;=95;0MESSAGE WAITING;=95;0MW;
=96;0START OF GUARDED AREA;=96;0START OF PROTECTED AREA;=96;0SPA;=97;0END OF GUARDED AREA;
=97;0END OF PROTECTED AREA;=97;0EPA;=98;0START OF STRING;=98;0SOS;
=99;0SINGLE GRAPHIC CHARACTER INTRODUCER;=99;0SGC;=9A;0SINGLE CHARACTER INTRODUCER;=9A;0SCI;
=9B;0CONTROL SEQUENCE INTRODUCER;=9B;0CSI;=9C;0STRING TERMINATOR;=9C;0ST;
=9D;0OPERATING SYSTEM COMMAND;=9D;0OSC;=9E;0PRIVACY MESSAGE;=9E;0PM;
=9F;0APPLICATION PROGRAM COMMAND;=9F;0APC;=A0;0NBSP;=AD;0SHY;=1A2;0LATIN CAPITAL LETTER GHA;
=1A3;0LATIN SMALL LETTER GHA;=34F;0CGJ;=61C;0ALM;=709;0SYRIAC SUBLINEAR COLON SKEWED LEFT;
=CDE;0KANNADA LETTER LLLA;=E9D;0LAO LETTER FO FON;=E9F;0LAO LETTER FO FAY;=EA3;0LAO LETTER RO;
=EA5;0LAO LETTER LO;=FD0;0TIBETAN MARK BKA- SHOG GI MGO RGYAN;
=11EC;0HANGUL JONGSEONG YESIEUNG-KIYEOK;=11ED;0HANGUL JONGSEONG YESIEUNG-SSANGKIYEOK;
=11EE;0HANGUL JONGSEONG SSANGYESIEUNG;=11EF;0HANGUL JONGSEONG YESIEUNG-KHIEUKH;=180B;0FVS1;
=180C;0FVS2;=180D;0FVS3;=180E;0MVS;=180F;0FVS4;=200B;0ZWSP;=200C;0ZWNJ;=200D;0ZWJ;=200E;0LRM;
=200F;0RLM;=202A;0LRE;=202B;0RLE;=202C;0PDF;=202D;0LRO;=202E;0RLO;=202F;0NNBSP;=205F;0MMSP;
=2060;0WJ;=2066;0LRI;=2067;0RLI;=2068;0FSI;=2069;0PDI;=2118;0WEIERSTRASS ELLIPTIC FUNCTION;
=2448;0MICR ON US SYMBOL;=2449;0MICR DASH SYMBOL;
=2B7A;0LEFTWARDS TRIANGLE-HEADED ARROW WITH DOUBLE VERTICAL STROKE;
=2B7C;0RIGHTWARDS TRIANGLE-HEADED ARROW WITH DOUBLE VERTICAL STROKE;
=A015;0YI SYLLABLE ITERATION MARK;=AA6E;0MYANMAR LETTER KHAMTI LLA;=FE00;0VS1;=FE01;0VS2;=FE02;0VS3;
=FE03;0VS4;=FE04;0VS5;=FE05;0VS6;=FE06;0VS7;=FE07;0VS8;=FE08;0VS9;=FE09;0VS10;=FE0A;0VS11;
=FE0B;0VS12;=FE0C;0VS13;=FE0D;0VS14;=FE0E;0VS15;=FE0F;0VS16;
=FE18;0PRESENTATION FORM FOR VERTICAL RIGHT WHITE LENTICULAR BRACKET;=FEFF;0BYTE ORDER MARK;
=FEFF;0BOM;=FEFF;0ZWNBSP;=122D4;0CUNEIFORM SIGN NU11 TENU;
=122D5;0CUNEIFORM SIGN NU11 OVER NU11 BUR OVER BUR;=16E56;0MEDEFAIDRIN CAPITAL LETTER H;
=16E57;0MEDEFAIDRIN CAPITAL LETTER NG;=16E76;0MEDEFAIDRIN SMALL LETTER H;
=16E77;0MEDEFAIDRIN SMALL LETTER NG;=1B001;0HENTAIGANA LETTER E-1;
=1D0C5;0BYZANTINE MUSICAL SYMBOL FTHORA SKLIRON CHROMA VASIS;=E0100;0VS17;=E0101;0VS18;=E0102;0VS19;
=E0103;0VS20;=E0104;0VS21;=E0105;0VS22;=E0106;0VS23;=E0107;0VS24;=E0108;0VS25;=E0109;0VS26;
=E010A;0VS27;=E010B;0VS28;=E010C;0VS29;=E010D;0VS30;=E010E;0VS31;=E010F;0VS32;=E0110;0VS33;
=E0111;0VS34;=E0112;0VS35;=E0113;0VS36;=E0114;0VS37;=E0115;0VS38;=E0116;0VS39;=E0117;0VS40;
=E0118;0VS41;=E0119;0VS42;=E011A;0VS43;=E011B;0VS44;=E011C;0VS45;=E011D;0VS46;=E011E;0VS47;
=E011F;0VS48;=E0120;0VS49;=E0121;0VS50;=E0122;0VS51;=E0123;0VS52;=E0124;0VS53;=E0125;0VS54;
=E0126;0VS55;=E0127;0VS56;=E0128;0VS57;=E0129;0VS58;=E012A;0VS59;=E012B;0VS60;=E012C;0VS61;
=E012D;0VS62;=E012E;0VS63;=E012F;0VS64;=E0130;0VS65;=E0131;0VS66;=E0132;0VS67;=E0133;0VS68;
=E0134;0VS69;=E0135;0VS70;=E0136;0VS71;=E0137;0VS72;=E0138;0VS73;=E0139;0VS74;=E013A;0VS75;
=E013B;0VS76;=E013C;0VS77;=E013D;0VS78;=E013E;0VS79;=E013F;0VS80;=E0140;0VS81;=E0141;0VS82;
=E0142;0VS83;=E0143;0VS84;=E0144;0VS85;=E0145;0VS86;=E0146;0VS87;=E0147;0VS88;=E0148;0VS89;
=E0149;0VS90;=E014A;0VS91;=E014B;0VS92;=E014C;0VS93;=E014D;0VS94;=E014E;0VS95;=E014F;0VS96;
=E0150;0VS97;=E0151;0VS98;=E0152;0VS99;=E0153;0VS100;=E0154;0VS101;=E0155;0VS102;=E0156;0VS103;
=E0157;0VS104;=E0158;0VS105;=E0159;0VS106;=E015A;0VS107;=E015B;0VS108;=E015C;0VS109;=E015D;0VS110;
=E015E;0VS111;=E015F;0VS112;=E0160;0VS113;=E0161;0VS114;=E0162;0VS115;=E0163;0VS116;=E0164;0VS117;
=E0165;0VS118;=E0166;0VS119;=E0167;0VS120;=E0168;0VS121;=E0169;0VS122;=E016A;0VS123;=E016B;0VS124;
=E016C;0VS125;=E016D;0VS126;=E016E;0VS127;=E016F;0VS128;=E0170;0VS129;=E0171;0VS130;=E0172;0VS131;
=E0173;0VS132;=E0174;0VS133;=E0175;0VS134;=E0176;0VS135;=E0177;0VS136;=E0178;0VS137;=E0179;0VS138;
=E017A;0VS139;=E017B;0VS140;=E017C;0VS141;=E017D;0VS142;=E017E;0VS143;=E017F;0VS144;=E0180;0VS145;
=E0181;0VS146;=E0182;0VS147;=E0183;0VS148;=E0184;0VS149;=E0185;0VS150;=E0186;0VS151;=E0187;0VS152;
=E0188;0VS153;=E0189;0VS154;=E018A;0VS155;=E018B;0VS156;=E018C;0VS157;=E018D;0VS158;=E018E;0VS159;
=E018F;0VS160;=E0190;0VS161;=E0191;0VS162;=E0192;0VS163;=E0193;0VS164;=E0194;0VS165;=E0195;0VS166;
=E0196;0VS167;=E0197;0VS168;=E0198;0VS169;=E0199;0VS170;=E019A;0VS171;=E019B;0VS172;=E019C;0VS173;
=E019D;0VS174;=E019E;0VS175;=E019F;0VS176;=E01A0;0VS177;=E01A1;0VS178;=E01A2;0VS179;=E01A3;0VS180;
=E01A4;0VS181;=E01A5;0VS182;=E01A6;0VS183;=E01A7;0VS184;=E01A8;0VS185;=E01A9;0VS186;=E01AA;0VS187;
=E01AB;0VS188;=E01AC;0VS189;=E01AD;0VS190;=E01AE;0VS191;=E01AF;0VS192;=E01B0;0VS193;=E01B1;0VS194;
=E01B2;0VS195;=E01B3;0VS196;=E01B4;0VS197;=E01B5;0VS198;=E01B6;0VS199;=E01B7;0VS200;=E01B8;0VS201;
=E01B9;0VS202;=E01BA;0VS203;=E01BB;0VS204;=E01BC;0VS205;=E01BD;0VS206;=E01BE;0VS207;=E01BF;0VS208;
=E01C0;0VS209;=E01C1;0VS210;=E01C2;0VS211;=E01C3;0VS212;=E01C4;0VS213;=E01C5;0VS214;=E01C6;0VS215;
=E01C7;0VS216;=E01C8;0VS217;=E01C9;0VS218;=E01CA;0VS219;=E01CB;0VS220;=E01CC;0VS221;=E01CD;0VS222;
=E01CE;0VS223;=E01CF;0VS224;=E01D0;0VS225;=E01D1;0VS226;=E01D2;0VS227;=E01D3;0VS228;=E01D4;0VS229;
=E01D5;0VS230;=E01D6;0VS231;=E01D7;0VS232;=E01D8;0VS233;=E01D9;0VS234;=E01DA;0VS235;=E01DB;0VS236;
=E01DC;0VS237;=E01DD;0VS238;=E01DE;0VS239;=E01DF;0VS240;=E01E0;0VS241;=E01E1;0VS242;=E01E2;0VS243;
=E01E3;0VS244;=E01E4;0VS245;=E01E5;0VS246;=E01E6;0VS247;=E01E7;0VS248;=E01E8;0VS249;=E01E9;0VS250;
=E01EA;0VS251;=E01EB;0VS252;=E01EC;0VS253;=E01ED;0VS254;=E01EE;0VS255;=E01EF;0VS256;"

end ServiceManifest.Text
