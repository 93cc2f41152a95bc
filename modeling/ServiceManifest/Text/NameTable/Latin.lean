/-!
# Names of characters: Latin

The table is written as `ServiceManifest.Text.listedCode?` reads it.
-/

namespace ServiceManifest.Text

/-- Names of the Latin, Greek, Cyrillic and Armenian scripts, of Georgian and of further scripts of
Europe. -/
def latinNames : String := "
=20;0SPACE;0EXCLAMATION MARK;0QUOTATION MARK;0NUMBER SIGN;0DOLLAR SIGN;0PERCENT SIGN;0AMPERSAND;
0APOSTROPHE;0LEFT PARENTHESIS;0RIGHT PARENTHESIS;0ASTERISK;0PLUS SIGN;0COMMA;0HYPHEN-MINUS;
0FULL STOP;0SOLIDUS;0DIGIT ZERO;1ONE;1TWO;1THREE;1FOUR;1FIVE;1SIX;1SEVEN;1EIGHT;1NINE;0COLON;
0SEMICOLON;0LESS-THAN SIGN;0EQUALS SIGN;0GREATER-THAN SIGN;0QUESTION MARK;0COMMERCIAL AT;
0LATIN CAPITAL LETTER A;3B;3C;3D;3E;3F;3G;3H;3I;3J;3K;3L;3M;3N;3O;3P;3Q;3R;3S;3T;3U;3V;3W;3X;3Y;3Z;
0LEFT SQUARE BRACKET;0REVERSE SOLIDUS;0RIGHT SQUARE BRACKET;0CIRCUMFLEX ACCENT;0LOW LINE;
0GRAVE ACCENT;0LATIN SMALL LETTER A;3B;3C;3D;3E;3F;3G;3H;3I;3J;3K;3L;3M;3N;3O;3P;3Q;3R;3S;3T;3U;3V;
3W;3X;3Y;3Z;0LEFT CURLY BRACKET;0VERTICAL LINE;0RIGHT CURLY BRACKET;0TILDE;=A0;0NO-BREAK SPACE;
0INVERTED EXCLAMATION MARK;0CENT SIGN;0POUND SIGN;0CURRENCY SIGN;0YEN SIGN;0BROKEN BAR;
0SECTION SIGN;0DIAERESIS;0COPYRIGHT SIGN;0FEMININE ORDINAL INDICATOR;
0LEFT-POINTING DOUBLE ANGLE QUOTATION MARK;0NOT SIGN;0SOFT HYPHEN;0REGISTERED SIGN;0MACRON;
0DEGREE SIGN;0PLUS-MINUS SIGN;0SUPERSCRIPT TWO;1THREE;0ACUTE ACCENT;0MICRO SIGN;0PILCROW SIGN;
0MIDDLE DOT;0CEDILLA;0SUPERSCRIPT ONE;0MASCULINE ORDINAL INDICATOR;
0RIGHT-POINTING DOUBLE ANGLE QUOTATION MARK;0VULGAR FRACTION ONE QUARTER;3HALF;2THREE QUARTERS;
0INVERTED QUESTION MARK;0LATIN CAPITAL LETTER A WITH GRAVE;5ACUTE;5CIRCUMFLEX;5TILDE;5DIAERESIS;
5RING ABOVE;3AE;3C WITH CEDILLA;3E WITH GRAVE;5ACUTE;5CIRCUMFLEX;5DIAERESIS;3I WITH GRAVE;5ACUTE;
5CIRCUMFLEX;5DIAERESIS;3ETH;3N WITH TILDE;3O WITH GRAVE;5ACUTE;5CIRCUMFLEX;5TILDE;5DIAERESIS;
0MULTIPLICATION SIGN;0LATIN CAPITAL LETTER O WITH STROKE;3U WITH GRAVE;5ACUTE;5CIRCUMFLEX;
5DIAERESIS;3Y WITH ACUTE;3THORN;1SMALL LETTER SHARP S;3A WITH GRAVE;5ACUTE;5CIRCUMFLEX;5TILDE;
5DIAERESIS;5RING ABOVE;3AE;3C WITH CEDILLA;3E WITH GRAVE;5ACUTE;5CIRCUMFLEX;5DIAERESIS;
3I WITH GRAVE;5ACUTE;5CIRCUMFLEX;5DIAERESIS;3ETH;3N WITH TILDE;3O WITH GRAVE;5ACUTE;5CIRCUMFLEX;
5TILDE;5DIAERESIS;0DIVISION SIGN;0LATIN SMALL LETTER O WITH STROKE;3U WITH GRAVE;5ACUTE;5CIRCUMFLEX;
5DIAERESIS;3Y WITH ACUTE;3THORN;3Y WITH DIAERESIS;1CAPITAL LETTER A WITH MACRON;
1SMALL LETTER A WITH MACRON;1CAPITAL LETTER A WITH BREVE;1SMALL LETTER A WITH BREVE;
1CAPITAL LETTER A WITH OGONEK;1SMALL LETTER A WITH OGONEK;1CAPITAL LETTER C WITH ACUTE;
1SMALL LETTER C WITH ACUTE;1CAPITAL LETTER C WITH CIRCUMFLEX;1SMALL LETTER C WITH CIRCUMFLEX;
1CAPITAL LETTER C WITH DOT ABOVE;1SMALL LETTER C WITH DOT ABOVE;1CAPITAL LETTER C WITH CARON;
1SMALL LETTER C WITH CARON;1CAPITAL LETTER D WITH CARON;1SMALL LETTER D WITH CARON;
1CAPITAL LETTER D WITH STROKE;1SMALL LETTER D WITH STROKE;1CAPITAL LETTER E WITH MACRON;
1SMALL LETTER E WITH MACRON;1CAPITAL LETTER E WITH BREVE;1SMALL LETTER E WITH BREVE;
1CAPITAL LETTER E WITH DOT ABOVE;1SMALL LETTER E WITH DOT ABOVE;1CAPITAL LETTER E WITH OGONEK;
1SMALL LETTER E WITH OGONEK;1CAPITAL LETTER E WITH CARON;1SMALL LETTER E WITH CARON;
1CAPITAL LETTER G WITH CIRCUMFLEX;1SMALL LETTER G WITH CIRCUMFLEX;1CAPITAL LETTER G WITH BREVE;
1SMALL LETTER G WITH BREVE;1CAPITAL LETTER G WITH DOT ABOVE;1SMALL LETTER G WITH DOT ABOVE;
1CAPITAL LETTER G WITH CEDILLA;1SMALL LETTER G WITH CEDILLA;1CAPITAL LETTER H WITH CIRCUMFLEX;
1SMALL LETTER H WITH CIRCUMFLEX;1CAPITAL LETTER H WITH STROKE;1SMALL LETTER H WITH STROKE;
1CAPITAL LETTER I WITH TILDE;1SMALL LETTER I WITH TILDE;1CAPITAL LETTER I WITH MACRON;
1SMALL LETTER I WITH MACRON;1CAPITAL LETTER I WITH BREVE;1SMALL LETTER I WITH BREVE;
1CAPITAL LETTER I WITH OGONEK;1SMALL LETTER I WITH OGONEK;1CAPITAL LETTER I WITH DOT ABOVE;
1SMALL LETTER DOTLESS I;1CAPITAL LIGATURE IJ;1SMALL LIGATURE IJ;1CAPITAL LETTER J WITH CIRCUMFLEX;
1SMALL LETTER J WITH CIRCUMFLEX;1CAPITAL LETTER K WITH CEDILLA;1SMALL LETTER K WITH CEDILLA;3KRA;
1CAPITAL LETTER L WITH ACUTE;1SMALL LETTER L WITH ACUTE;1CAPITAL LETTER L WITH CEDILLA;
1SMALL LETTER L WITH CEDILLA;1CAPITAL LETTER L WITH CARON;1SMALL LETTER L WITH CARON;
1CAPITAL LETTER L WITH MIDDLE DOT;1SMALL LETTER L WITH MIDDLE DOT;1CAPITAL LETTER L WITH STROKE;
1SMALL LETTER L WITH STROKE;1CAPITAL LETTER N WITH ACUTE;1SMALL LETTER N WITH ACUTE;
1CAPITAL LETTER N WITH CEDILLA;1SMALL LETTER N WITH CEDILLA;1CAPITAL LETTER N WITH CARON;
1SMALL LETTER N WITH CARON;4PRECEDED BY APOSTROPHE;1CAPITAL LETTER ENG;1SMALL LETTER ENG;
1CAPITAL LETTER O WITH MACRON;1SMALL LETTER O WITH MACRON;1CAPITAL LETTER O WITH BREVE;
1SMALL LETTER O WITH BREVE;1CAPITAL LETTER O WITH DOUBLE ACUTE;1SMALL LETTER O WITH DOUBLE ACUTE;
1CAPITAL LIGATURE OE;1SMALL LIGATURE OE;1CAPITAL LETTER R WITH ACUTE;1SMALL LETTER R WITH ACUTE;
1CAPITAL LETTER R WITH CEDILLA;1SMALL LETTER R WITH CEDILLA;1CAPITAL LETTER R WITH CARON;
1SMALL LETTER R WITH CARON;1CAPITAL LETTER S WITH ACUTE;1SMALL LETTER S WITH ACUTE;
1CAPITAL LETTER S WITH CIRCUMFLEX;1SMALL LETTER S WITH CIRCUMFLEX;1CAPITAL LETTER S WITH CEDILLA;
1SMALL LETTER S WITH CEDILLA;1CAPITAL LETTER S WITH CARON;1SMALL LETTER S WITH CARON;
1CAPITAL LETTER T WITH CEDILLA;1SMALL LETTER T WITH CEDILLA;1CAPITAL LETTER T WITH CARON;
1SMALL LETTER T WITH CARON;1CAPITAL LETTER T WITH STROKE;1SMALL LETTER T WITH STROKE;
1CAPITAL LETTER U WITH TILDE;1SMALL LETTER U WITH TILDE;1CAPITAL LETTER U WITH MACRON;
1SMALL LETTER U WITH MACRON;1CAPITAL LETTER U WITH BREVE;1SMALL LETTER U WITH BREVE;
1CAPITAL LETTER U WITH RING ABOVE;1SMALL LETTER U WITH RING ABOVE;
1CAPITAL LETTER U WITH DOUBLE ACUTE;1SMALL LETTER U WITH DOUBLE ACUTE;1CAPITAL LETTER U WITH OGONEK;
1SMALL LETTER U WITH OGONEK;1CAPITAL LETTER W WITH CIRCUMFLEX;1SMALL LETTER W WITH CIRCUMFLEX;
1CAPITAL LETTER Y WITH CIRCUMFLEX;1SMALL LETTER Y WITH CIRCUMFLEX;1CAPITAL LETTER Y WITH DIAERESIS;
3Z WITH ACUTE;1SMALL LETTER Z WITH ACUTE;1CAPITAL LETTER Z WITH DOT ABOVE;
1SMALL LETTER Z WITH DOT ABOVE;1CAPITAL LETTER Z WITH CARON;1SMALL LETTER Z WITH CARON;3LONG S;
3B WITH STROKE;1CAPITAL LETTER B WITH HOOK;5TOPBAR;1SMALL LETTER B WITH TOPBAR;
1CAPITAL LETTER TONE SIX;1SMALL LETTER TONE SIX;1CAPITAL LETTER OPEN O;3C WITH HOOK;
1SMALL LETTER C WITH HOOK;1CAPITAL LETTER AFRICAN D;3D WITH HOOK;5TOPBAR;
1SMALL LETTER D WITH TOPBAR;3TURNED DELTA;1CAPITAL LETTER REVERSED E;3SCHWA;3OPEN E;3F WITH HOOK;
1SMALL LETTER F WITH HOOK;1CAPITAL LETTER G WITH HOOK;3GAMMA;1SMALL LETTER HV;1CAPITAL LETTER IOTA;
3I WITH STROKE;3K WITH HOOK;1SMALL LETTER K WITH HOOK;3L WITH BAR;3LAMBDA WITH STROKE;
1CAPITAL LETTER TURNED M;3N WITH LEFT HOOK;1SMALL LETTER N WITH LONG RIGHT LEG;
1CAPITAL LETTER O WITH MIDDLE TILDE;5HORN;1SMALL LETTER O WITH HORN;1CAPITAL LETTER OI;
1SMALL LETTER OI;1CAPITAL LETTER P WITH HOOK;1SMALL LETTER P WITH HOOK;1LETTER YR;
1CAPITAL LETTER TONE TWO;1SMALL LETTER TONE TWO;1CAPITAL LETTER ESH;1LETTER REVERSED ESH LOOP;
1SMALL LETTER T WITH PALATAL HOOK;1CAPITAL LETTER T WITH HOOK;1SMALL LETTER T WITH HOOK;
1CAPITAL LETTER T WITH RETROFLEX HOOK;3U WITH HORN;1SMALL LETTER U WITH HORN;
1CAPITAL LETTER UPSILON;3V WITH HOOK;3Y WITH HOOK;1SMALL LETTER Y WITH HOOK;
1CAPITAL LETTER Z WITH STROKE;1SMALL LETTER Z WITH STROKE;1CAPITAL LETTER EZH;4REVERSED;
1SMALL LETTER EZH REVERSED;4WITH TAIL;1LETTER TWO WITH STROKE;1CAPITAL LETTER TONE FIVE;
1SMALL LETTER TONE FIVE;1LETTER INVERTED GLOTTAL STOP WITH STROKE;2WYNN;2DENTAL CLICK;
2LATERAL CLICK;2ALVEOLAR CLICK;2RETROFLEX CLICK;1CAPITAL LETTER DZ WITH CARON;
3D WITH SMALL LETTER Z WITH CARON;1SMALL LETTER DZ WITH CARON;1CAPITAL LETTER LJ;
3L WITH SMALL LETTER J;1SMALL LETTER LJ;1CAPITAL LETTER NJ;3N WITH SMALL LETTER J;1SMALL LETTER NJ;
1CAPITAL LETTER A WITH CARON;1SMALL LETTER A WITH CARON;1CAPITAL LETTER I WITH CARON;
1SMALL LETTER I WITH CARON;1CAPITAL LETTER O WITH CARON;1SMALL LETTER O WITH CARON;
1CAPITAL LETTER U WITH CARON;1SMALL LETTER U WITH CARON;1CAPITAL LETTER U WITH DIAERESIS AND MACRON;
1SMALL LETTER U WITH DIAERESIS AND MACRON;1CAPITAL LETTER U WITH DIAERESIS AND ACUTE;
1SMALL LETTER U WITH DIAERESIS AND ACUTE;1CAPITAL LETTER U WITH DIAERESIS AND CARON;
1SMALL LETTER U WITH DIAERESIS AND CARON;1CAPITAL LETTER U WITH DIAERESIS AND GRAVE;
1SMALL LETTER U WITH DIAERESIS AND GRAVE;3TURNED E;1CAPITAL LETTER A WITH DIAERESIS AND MACRON;
1SMALL LETTER A WITH DIAERESIS AND MACRON;1CAPITAL LETTER A WITH DOT ABOVE AND MACRON;
1SMALL LETTER A WITH DOT ABOVE AND MACRON;1CAPITAL LETTER AE WITH MACRON;
1SMALL LETTER AE WITH MACRON;1CAPITAL LETTER G WITH STROKE;1SMALL LETTER G WITH STROKE;
1CAPITAL LETTER G WITH CARON;1SMALL LETTER G WITH CARON;1CAPITAL LETTER K WITH CARON;
1SMALL LETTER K WITH CARON;1CAPITAL LETTER O WITH OGONEK;1SMALL LETTER O WITH OGONEK;
1CAPITAL LETTER O WITH OGONEK AND MACRON;1SMALL LETTER O WITH OGONEK AND MACRON;
1CAPITAL LETTER EZH WITH CARON;1SMALL LETTER EZH WITH CARON;3J WITH CARON;1CAPITAL LETTER DZ;
3D WITH SMALL LETTER Z;1SMALL LETTER DZ;1CAPITAL LETTER G WITH ACUTE;1SMALL LETTER G WITH ACUTE;
1CAPITAL LETTER HWAIR;3WYNN;3N WITH GRAVE;1SMALL LETTER N WITH GRAVE;
1CAPITAL LETTER A WITH RING ABOVE AND ACUTE;1SMALL LETTER A WITH RING ABOVE AND ACUTE;
1CAPITAL LETTER AE WITH ACUTE;1SMALL LETTER AE WITH ACUTE;1CAPITAL LETTER O WITH STROKE AND ACUTE;
1SMALL LETTER O WITH STROKE AND ACUTE;1CAPITAL LETTER A WITH DOUBLE GRAVE;
1SMALL LETTER A WITH DOUBLE GRAVE;1CAPITAL LETTER A WITH INVERTED BREVE;
1SMALL LETTER A WITH INVERTED BREVE;1CAPITAL LETTER E WITH DOUBLE GRAVE;
1SMALL LETTER E WITH DOUBLE GRAVE;1CAPITAL LETTER E WITH INVERTED BREVE;
1SMALL LETTER E WITH INVERTED BREVE;1CAPITAL LETTER I WITH DOUBLE GRAVE;
1SMALL LETTER I WITH DOUBLE GRAVE;1CAPITAL LETTER I WITH INVERTED BREVE;
1SMALL LETTER I WITH INVERTED BREVE;1CAPITAL LETTER O WITH DOUBLE GRAVE;
1SMALL LETTER O WITH DOUBLE GRAVE;1CAPITAL LETTER O WITH INVERTED BREVE;
1SMALL LETTER O WITH INVERTED BREVE;1CAPITAL LETTER R WITH DOUBLE GRAVE;
1SMALL LETTER R WITH DOUBLE GRAVE;1CAPITAL LETTER R WITH INVERTED BREVE;
1SMALL LETTER R WITH INVERTED BREVE;1CAPITAL LETTER U WITH DOUBLE GRAVE;
1SMALL LETTER U WITH DOUBLE GRAVE;1CAPITAL LETTER U WITH INVERTED BREVE;
1SMALL LETTER U WITH INVERTED BREVE;1CAPITAL LETTER S WITH COMMA BELOW;
1SMALL LETTER S WITH COMMA BELOW;1CAPITAL LETTER T WITH COMMA BELOW;
1SMALL LETTER T WITH COMMA BELOW;1CAPITAL LETTER YOGH;1SMALL LETTER YOGH;
1CAPITAL LETTER H WITH CARON;1SMALL LETTER H WITH CARON;1CAPITAL LETTER N WITH LONG RIGHT LEG;
1SMALL LETTER D WITH CURL;1CAPITAL LETTER OU;1SMALL LETTER OU;1CAPITAL LETTER Z WITH HOOK;
1SMALL LETTER Z WITH HOOK;1CAPITAL LETTER A WITH DOT ABOVE;1SMALL LETTER A WITH DOT ABOVE;
1CAPITAL LETTER E WITH CEDILLA;1SMALL LETTER E WITH CEDILLA;
1CAPITAL LETTER O WITH DIAERESIS AND MACRON;1SMALL LETTER O WITH DIAERESIS AND MACRON;
1CAPITAL LETTER O WITH TILDE AND MACRON;1SMALL LETTER O WITH TILDE AND MACRON;
1CAPITAL LETTER O WITH DOT ABOVE;1SMALL LETTER O WITH DOT ABOVE;
1CAPITAL LETTER O WITH DOT ABOVE AND MACRON;1SMALL LETTER O WITH DOT ABOVE AND MACRON;
1CAPITAL LETTER Y WITH MACRON;1SMALL LETTER Y WITH MACRON;3L WITH CURL;3N WITH CURL;3T WITH CURL;
3DOTLESS J;3DB DIGRAPH;3QP DIGRAPH;1CAPITAL LETTER A WITH STROKE;3C WITH STROKE;
1SMALL LETTER C WITH STROKE;1CAPITAL LETTER L WITH BAR;3T WITH DIAGONAL STROKE;
1SMALL LETTER S WITH SWASH TAIL;3Z WITH SWASH TAIL;1CAPITAL LETTER GLOTTAL STOP;
1SMALL LETTER GLOTTAL STOP;1CAPITAL LETTER B WITH STROKE;3U BAR;3TURNED V;3E WITH STROKE;
1SMALL LETTER E WITH STROKE;1CAPITAL LETTER J WITH STROKE;1SMALL LETTER J WITH STROKE;
1CAPITAL LETTER SMALL Q WITH HOOK TAIL;1SMALL LETTER Q WITH HOOK TAIL;1CAPITAL LETTER R WITH STROKE;
1SMALL LETTER R WITH STROKE;1CAPITAL LETTER Y WITH STROKE;1SMALL LETTER Y WITH STROKE;3TURNED A;
3ALPHA;3TURNED ALPHA;3B WITH HOOK;3OPEN O;3C WITH CURL;3D WITH TAIL;5HOOK;3REVERSED E;3SCHWA;
4WITH HOOK;3OPEN E;3REVERSED OPEN E;6WITH HOOK;3CLOSED REVERSED OPEN E;3DOTLESS J WITH STROKE;
3G WITH HOOK;3SCRIPT G;1LETTER SMALL CAPITAL G;1SMALL LETTER GAMMA;3RAMS HORN;3TURNED H;
3H WITH HOOK;3HENG WITH HOOK;3I WITH STROKE;3IOTA;1LETTER SMALL CAPITAL I;
1SMALL LETTER L WITH MIDDLE TILDE;5BELT;5RETROFLEX HOOK;3LEZH;3TURNED M;5WITH LONG LEG;3M WITH HOOK;
3N WITH LEFT HOOK;5RETROFLEX HOOK;1LETTER SMALL CAPITAL N;1SMALL LETTER BARRED O;
1LETTER SMALL CAPITAL OE;1SMALL LETTER CLOSED OMEGA;3PHI;3TURNED R;5WITH LONG LEG;6HOOK;
3R WITH LONG LEG;5TAIL;5FISHHOOK;3REVERSED R WITH FISHHOOK;1LETTER SMALL CAPITAL R;4INVERTED R;
1SMALL LETTER S WITH HOOK;3ESH;3DOTLESS J WITH STROKE AND HOOK;3SQUAT REVERSED ESH;3ESH WITH CURL;
3TURNED T;3T WITH RETROFLEX HOOK;3U BAR;3UPSILON;3V WITH HOOK;3TURNED V;4W;4Y;
1LETTER SMALL CAPITAL Y;1SMALL LETTER Z WITH RETROFLEX HOOK;5CURL;3EZH;4WITH CURL;
1LETTER GLOTTAL STOP;2PHARYNGEAL VOICED FRICATIVE;2INVERTED GLOTTAL STOP;2STRETCHED C;
2BILABIAL CLICK;2SMALL CAPITAL B;1SMALL LETTER CLOSED OPEN E;1LETTER SMALL CAPITAL G WITH HOOK;4H;
1SMALL LETTER J WITH CROSSED-TAIL;3TURNED K;1LETTER SMALL CAPITAL L;1SMALL LETTER Q WITH HOOK;
1LETTER GLOTTAL STOP WITH STROKE;2REVERSED GLOTTAL STOP WITH STROKE;1SMALL LETTER DZ DIGRAPH;
3DEZH DIGRAPH;3DZ DIGRAPH WITH CURL;3TS DIGRAPH;3TESH DIGRAPH;3TC DIGRAPH WITH CURL;3FENG DIGRAPH;
3LS DIGRAPH;3LZ DIGRAPH;1LETTER BILABIAL PERCUSSIVE;2BIDENTAL PERCUSSIVE;
1SMALL LETTER TURNED H WITH FISHHOOK;7AND TAIL;0MODIFIER LETTER SMALL H;4WITH HOOK;3J;3R;3TURNED R;
5WITH HOOK;3CAPITAL INVERTED R;3W;3Y;2PRIME;2DOUBLE PRIME;2TURNED COMMA;2APOSTROPHE;2REVERSED COMMA;
2RIGHT HALF RING;2LEFT HALF RING;2GLOTTAL STOP;2REVERSED GLOTTAL STOP;2LEFT ARROWHEAD;
2RIGHT ARROWHEAD;2UP ARROWHEAD;2DOWN ARROWHEAD;2CIRCUMFLEX ACCENT;0CARON;
0MODIFIER LETTER VERTICAL LINE;2MACRON;2ACUTE ACCENT;2GRAVE ACCENT;2LOW VERTICAL LINE;3MACRON;
3GRAVE ACCENT;3ACUTE ACCENT;2TRIANGULAR COLON;2HALF TRIANGULAR COLON;2CENTRED RIGHT HALF RING;
3LEFT HALF RING;2UP TACK;2DOWN TACK;2PLUS SIGN;2MINUS SIGN;0BREVE;0DOT ABOVE;0RING ABOVE;0OGONEK;
0SMALL TILDE;0DOUBLE ACUTE ACCENT;0MODIFIER LETTER RHOTIC HOOK;2CROSS ACCENT;2SMALL GAMMA;3L;3S;3X;
3REVERSED GLOTTAL STOP;2EXTRA-HIGH TONE BAR;2HIGH TONE BAR;2MID TONE BAR;2LOW TONE BAR;
2EXTRA-LOW TONE BAR;2YIN DEPARTING TONE MARK;2YANG DEPARTING TONE MARK;2VOICING;2UNASPIRATED;
2DOUBLE APOSTROPHE;2LOW DOWN ARROWHEAD;3UP ARROWHEAD;3LEFT ARROWHEAD;3RIGHT ARROWHEAD;3RING;
2MIDDLE GRAVE ACCENT;3DOUBLE GRAVE ACCENT;4ACUTE ACCENT;2LOW TILDE;2RAISED COLON;2BEGIN HIGH TONE;
2END HIGH TONE;2BEGIN LOW TONE;2END LOW TONE;2SHELF;2OPEN SHELF;2LOW LEFT ARROW;
0COMBINING GRAVE ACCENT;1ACUTE ACCENT;1CIRCUMFLEX ACCENT;1TILDE;1MACRON;1OVERLINE;1BREVE;1DOT ABOVE;
1DIAERESIS;1HOOK ABOVE;1RING ABOVE;1DOUBLE ACUTE ACCENT;1CARON;1VERTICAL LINE ABOVE;
1DOUBLE VERTICAL LINE ABOVE;2GRAVE ACCENT;1CANDRABINDU;1INVERTED BREVE;1TURNED COMMA ABOVE;
1COMMA ABOVE;1REVERSED COMMA ABOVE;1COMMA ABOVE RIGHT;1GRAVE ACCENT BELOW;1ACUTE ACCENT BELOW;
1LEFT TACK BELOW;1RIGHT TACK BELOW;1LEFT ANGLE ABOVE;1HORN;1LEFT HALF RING BELOW;1UP TACK BELOW;
1DOWN TACK BELOW;1PLUS SIGN BELOW;1MINUS SIGN BELOW;1PALATALIZED HOOK BELOW;1RETROFLEX HOOK BELOW;
1DOT BELOW;1DIAERESIS BELOW;1RING BELOW;1COMMA BELOW;1CEDILLA;1OGONEK;1VERTICAL LINE BELOW;
1BRIDGE BELOW;1INVERTED DOUBLE ARCH BELOW;1CARON BELOW;1CIRCUMFLEX ACCENT BELOW;1BREVE BELOW;
1INVERTED BREVE BELOW;1TILDE BELOW;1MACRON BELOW;1LOW LINE;1DOUBLE LOW LINE;1TILDE OVERLAY;
1SHORT STROKE OVERLAY;1LONG STROKE OVERLAY;1SHORT SOLIDUS OVERLAY;1LONG SOLIDUS OVERLAY;
1RIGHT HALF RING BELOW;1INVERTED BRIDGE BELOW;1SQUARE BELOW;1SEAGULL BELOW;1X ABOVE;1VERTICAL TILDE;
1DOUBLE OVERLINE;1GRAVE TONE MARK;1ACUTE TONE MARK;1GREEK PERISPOMENI;2KORONIS;2DIALYTIKA TONOS;
2YPOGEGRAMMENI;1BRIDGE ABOVE;1EQUALS SIGN BELOW;1DOUBLE VERTICAL LINE BELOW;1LEFT ANGLE BELOW;
1NOT TILDE ABOVE;1HOMOTHETIC ABOVE;1ALMOST EQUAL TO ABOVE;1LEFT RIGHT ARROW BELOW;
1UPWARDS ARROW BELOW;1GRAPHEME JOINER;1RIGHT ARROWHEAD ABOVE;1LEFT HALF RING ABOVE;1FERMATA;
1X BELOW;1LEFT ARROWHEAD BELOW;1RIGHT ARROWHEAD BELOW;3AND UP ARROWHEAD BELOW;2HALF RING ABOVE;
1DOT ABOVE RIGHT;1ASTERISK BELOW;1DOUBLE RING BELOW;1ZIGZAG ABOVE;1DOUBLE BREVE BELOW;2BREVE;
2MACRON;3BELOW;2TILDE;2INVERTED BREVE;2RIGHTWARDS ARROW BELOW;1LATIN SMALL LETTER A;4E;4I;4O;4U;4C;
4D;4H;4M;4R;4T;4V;4X;0GREEK CAPITAL LETTER HETA;1SMALL LETTER HETA;1CAPITAL LETTER ARCHAIC SAMPI;
1SMALL LETTER ARCHAIC SAMPI;1NUMERAL SIGN;1LOWER NUMERAL SIGN;1CAPITAL LETTER PAMPHYLIAN DIGAMMA;
1SMALL LETTER PAMPHYLIAN DIGAMMA;=37A;1YPOGEGRAMMENI;1SMALL REVERSED LUNATE SIGMA SYMBOL;
2DOTTED LUNATE SIGMA SYMBOL;2REVERSED DOTTED LUNATE SIGMA SYMBOL;1QUESTION MARK;1CAPITAL LETTER YOT;
=384;1TONOS;1DIALYTIKA TONOS;1CAPITAL LETTER ALPHA WITH TONOS;1ANO TELEIA;
1CAPITAL LETTER EPSILON WITH TONOS;3ETA WITH TONOS;3IOTA WITH TONOS;=38C;3OMICRON WITH TONOS;=38E;
3UPSILON WITH TONOS;3OMEGA WITH TONOS;1SMALL LETTER IOTA WITH DIALYTIKA AND TONOS;
1CAPITAL LETTER ALPHA;3BETA;3GAMMA;3DELTA;3EPSILON;3ZETA;3ETA;3THETA;3IOTA;3KAPPA;3LAMDA;3MU;3NU;
3XI;3OMICRON;3PI;3RHO;=3A3;3SIGMA;3TAU;3UPSILON;3PHI;3CHI;3PSI;3OMEGA;3IOTA WITH DIALYTIKA;
3UPSILON WITH DIALYTIKA;1SMALL LETTER ALPHA WITH TONOS;3EPSILON WITH TONOS;3ETA WITH TONOS;
3IOTA WITH TONOS;3UPSILON WITH DIALYTIKA AND TONOS;3ALPHA;3BETA;3GAMMA;3DELTA;3EPSILON;3ZETA;3ETA;
3THETA;3IOTA;3KAPPA;3LAMDA;3MU;3NU;3XI;3OMICRON;3PI;3RHO;3FINAL SIGMA;3SIGMA;3TAU;3UPSILON;3PHI;
3CHI;3PSI;3OMEGA;3IOTA WITH DIALYTIKA;3UPSILON WITH DIALYTIKA;3OMICRON WITH TONOS;
3UPSILON WITH TONOS;3OMEGA WITH TONOS;1CAPITAL KAI SYMBOL;1BETA SYMBOL;1THETA SYMBOL;
1UPSILON WITH HOOK SYMBOL;3ACUTE AND HOOK SYMBOL;3DIAERESIS AND HOOK SYMBOL;1PHI SYMBOL;1PI SYMBOL;
1KAI SYMBOL;1LETTER ARCHAIC KOPPA;1SMALL LETTER ARCHAIC KOPPA;1LETTER STIGMA;1SMALL LETTER STIGMA;
1LETTER DIGAMMA;1SMALL LETTER DIGAMMA;1LETTER KOPPA;1SMALL LETTER KOPPA;1LETTER SAMPI;
1SMALL LETTER SAMPI;0COPTIC CAPITAL LETTER SHEI;1SMALL LETTER SHEI;1CAPITAL LETTER FEI;
1SMALL LETTER FEI;1CAPITAL LETTER KHEI;1SMALL LETTER KHEI;1CAPITAL LETTER HORI;1SMALL LETTER HORI;
1CAPITAL LETTER GANGIA;1SMALL LETTER GANGIA;1CAPITAL LETTER SHIMA;1SMALL LETTER SHIMA;
1CAPITAL LETTER DEI;1SMALL LETTER DEI;0GREEK KAPPA SYMBOL;1RHO SYMBOL;1LUNATE SIGMA SYMBOL;
1LETTER YOT;1CAPITAL THETA SYMBOL;1LUNATE EPSILON SYMBOL;1REVERSED LUNATE EPSILON SYMBOL;
1CAPITAL LETTER SHO;1SMALL LETTER SHO;1CAPITAL LUNATE SIGMA SYMBOL;2LETTER SAN;1SMALL LETTER SAN;
1RHO WITH STROKE SYMBOL;1CAPITAL REVERSED LUNATE SIGMA SYMBOL;2DOTTED LUNATE SIGMA SYMBOL;
2REVERSED DOTTED LUNATE SIGMA SYMBOL;0CYRILLIC CAPITAL LETTER IE WITH GRAVE;3IO;3DJE;3GJE;
3UKRAINIAN IE;3DZE;3BYELORUSSIAN-UKRAINIAN I;3YI;3JE;3LJE;3NJE;3TSHE;3KJE;3I WITH GRAVE;3SHORT U;
3DZHE;3A;3BE;3VE;3GHE;3DE;3IE;3ZHE;3ZE;3I;3SHORT I;3KA;3EL;3EM;3EN;3O;3PE;3ER;3ES;3TE;3U;3EF;3HA;
3TSE;3CHE;3SHA;3SHCHA;3HARD SIGN;3YERU;3SOFT SIGN;3E;3YU;3YA;1SMALL LETTER A;3BE;3VE;3GHE;3DE;3IE;
3ZHE;3ZE;3I;3SHORT I;3KA;3EL;3EM;3EN;3O;3PE;3ER;3ES;3TE;3U;3EF;3HA;3TSE;3CHE;3SHA;3SHCHA;3HARD SIGN;
3YERU;3SOFT SIGN;3E;3YU;3YA;3IE WITH GRAVE;3IO;3DJE;3GJE;3UKRAINIAN IE;3DZE;
3BYELORUSSIAN-UKRAINIAN I;3YI;3JE;3LJE;3NJE;3TSHE;3KJE;3I WITH GRAVE;3SHORT U;3DZHE;
1CAPITAL LETTER OMEGA;1SMALL LETTER OMEGA;1CAPITAL LETTER YAT;1SMALL LETTER YAT;
1CAPITAL LETTER IOTIFIED E;1SMALL LETTER IOTIFIED E;1CAPITAL LETTER LITTLE YUS;
1SMALL LETTER LITTLE YUS;1CAPITAL LETTER IOTIFIED LITTLE YUS;1SMALL LETTER IOTIFIED LITTLE YUS;
1CAPITAL LETTER BIG YUS;1SMALL LETTER BIG YUS;1CAPITAL LETTER IOTIFIED BIG YUS;
1SMALL LETTER IOTIFIED BIG YUS;1CAPITAL LETTER KSI;1SMALL LETTER KSI;1CAPITAL LETTER PSI;
1SMALL LETTER PSI;1CAPITAL LETTER FITA;1SMALL LETTER FITA;1CAPITAL LETTER IZHITSA;
1SMALL LETTER IZHITSA;1CAPITAL LETTER IZHITSA WITH DOUBLE GRAVE ACCENT;
1SMALL LETTER IZHITSA WITH DOUBLE GRAVE ACCENT;1CAPITAL LETTER UK;1SMALL LETTER UK;
1CAPITAL LETTER ROUND OMEGA;1SMALL LETTER ROUND OMEGA;1CAPITAL LETTER OMEGA WITH TITLO;
1SMALL LETTER OMEGA WITH TITLO;1CAPITAL LETTER OT;1SMALL LETTER OT;1CAPITAL LETTER KOPPA;
1SMALL LETTER KOPPA;1THOUSANDS SIGN;0COMBINING CYRILLIC TITLO;2PALATALIZATION;2DASIA PNEUMATA;
2PSILI PNEUMATA;2POKRYTIE;2HUNDRED THOUSANDS SIGN;2MILLIONS SIGN;
0CYRILLIC CAPITAL LETTER SHORT I WITH TAIL;1SMALL LETTER SHORT I WITH TAIL;
1CAPITAL LETTER SEMISOFT SIGN;1SMALL LETTER SEMISOFT SIGN;1CAPITAL LETTER ER WITH TICK;
1SMALL LETTER ER WITH TICK;1CAPITAL LETTER GHE WITH UPTURN;1SMALL LETTER GHE WITH UPTURN;
1CAPITAL LETTER GHE WITH STROKE;1SMALL LETTER GHE WITH STROKE;1CAPITAL LETTER GHE WITH MIDDLE HOOK;
1SMALL LETTER GHE WITH MIDDLE HOOK;1CAPITAL LETTER ZHE WITH DESCENDER;
1SMALL LETTER ZHE WITH DESCENDER;1CAPITAL LETTER ZE WITH DESCENDER;1SMALL LETTER ZE WITH DESCENDER;
1CAPITAL LETTER KA WITH DESCENDER;1SMALL LETTER KA WITH DESCENDER;
1CAPITAL LETTER KA WITH VERTICAL STROKE;1SMALL LETTER KA WITH VERTICAL STROKE;
1CAPITAL LETTER KA WITH STROKE;1SMALL LETTER KA WITH STROKE;1CAPITAL LETTER BASHKIR KA;
1SMALL LETTER BASHKIR KA;1CAPITAL LETTER EN WITH DESCENDER;1SMALL LETTER EN WITH DESCENDER;
1CAPITAL LIGATURE EN GHE;1SMALL LIGATURE EN GHE;1CAPITAL LETTER PE WITH MIDDLE HOOK;
1SMALL LETTER PE WITH MIDDLE HOOK;1CAPITAL LETTER ABKHASIAN HA;1SMALL LETTER ABKHASIAN HA;
1CAPITAL LETTER ES WITH DESCENDER;1SMALL LETTER ES WITH DESCENDER;1CAPITAL LETTER TE WITH DESCENDER;
1SMALL LETTER TE WITH DESCENDER;1CAPITAL LETTER STRAIGHT U;1SMALL LETTER STRAIGHT U;
1CAPITAL LETTER STRAIGHT U WITH STROKE;1SMALL LETTER STRAIGHT U WITH STROKE;
1CAPITAL LETTER HA WITH DESCENDER;1SMALL LETTER HA WITH DESCENDER;1CAPITAL LIGATURE TE TSE;
1SMALL LIGATURE TE TSE;1CAPITAL LETTER CHE WITH DESCENDER;1SMALL LETTER CHE WITH DESCENDER;
1CAPITAL LETTER CHE WITH VERTICAL STROKE;1SMALL LETTER CHE WITH VERTICAL STROKE;
1CAPITAL LETTER SHHA;1SMALL LETTER SHHA;1CAPITAL LETTER ABKHASIAN CHE;1SMALL LETTER ABKHASIAN CHE;
1CAPITAL LETTER ABKHASIAN CHE WITH DESCENDER;1SMALL LETTER ABKHASIAN CHE WITH DESCENDER;
1LETTER PALOCHKA;1CAPITAL LETTER ZHE WITH BREVE;1SMALL LETTER ZHE WITH BREVE;
1CAPITAL LETTER KA WITH HOOK;1SMALL LETTER KA WITH HOOK;1CAPITAL LETTER EL WITH TAIL;
1SMALL LETTER EL WITH TAIL;1CAPITAL LETTER EN WITH HOOK;1SMALL LETTER EN WITH HOOK;
1CAPITAL LETTER EN WITH TAIL;1SMALL LETTER EN WITH TAIL;1CAPITAL LETTER KHAKASSIAN CHE;
1SMALL LETTER KHAKASSIAN CHE;1CAPITAL LETTER EM WITH TAIL;1SMALL LETTER EM WITH TAIL;3PALOCHKA;
1CAPITAL LETTER A WITH BREVE;1SMALL LETTER A WITH BREVE;1CAPITAL LETTER A WITH DIAERESIS;
1SMALL LETTER A WITH DIAERESIS;1CAPITAL LIGATURE A IE;1SMALL LIGATURE A IE;
1CAPITAL LETTER IE WITH BREVE;1SMALL LETTER IE WITH BREVE;1CAPITAL LETTER SCHWA;1SMALL LETTER SCHWA;
1CAPITAL LETTER SCHWA WITH DIAERESIS;1SMALL LETTER SCHWA WITH DIAERESIS;
1CAPITAL LETTER ZHE WITH DIAERESIS;1SMALL LETTER ZHE WITH DIAERESIS;
1CAPITAL LETTER ZE WITH DIAERESIS;1SMALL LETTER ZE WITH DIAERESIS;1CAPITAL LETTER ABKHASIAN DZE;
1SMALL LETTER ABKHASIAN DZE;1CAPITAL LETTER I WITH MACRON;1SMALL LETTER I WITH MACRON;
1CAPITAL LETTER I WITH DIAERESIS;1SMALL LETTER I WITH DIAERESIS;1CAPITAL LETTER O WITH DIAERESIS;
1SMALL LETTER O WITH DIAERESIS;1CAPITAL LETTER BARRED O;1SMALL LETTER BARRED O;
1CAPITAL LETTER BARRED O WITH DIAERESIS;1SMALL LETTER BARRED O WITH DIAERESIS;
1CAPITAL LETTER E WITH DIAERESIS;1SMALL LETTER E WITH DIAERESIS;1CAPITAL LETTER U WITH MACRON;
1SMALL LETTER U WITH MACRON;1CAPITAL LETTER U WITH DIAERESIS;1SMALL LETTER U WITH DIAERESIS;
1CAPITAL LETTER U WITH DOUBLE ACUTE;1SMALL LETTER U WITH DOUBLE ACUTE;
1CAPITAL LETTER CHE WITH DIAERESIS;1SMALL LETTER CHE WITH DIAERESIS;
1CAPITAL LETTER GHE WITH DESCENDER;1SMALL LETTER GHE WITH DESCENDER;
1CAPITAL LETTER YERU WITH DIAERESIS;1SMALL LETTER YERU WITH DIAERESIS;
1CAPITAL LETTER GHE WITH STROKE AND HOOK;1SMALL LETTER GHE WITH STROKE AND HOOK;
1CAPITAL LETTER HA WITH HOOK;1SMALL LETTER HA WITH HOOK;1CAPITAL LETTER HA WITH STROKE;
1SMALL LETTER HA WITH STROKE;1CAPITAL LETTER KOMI DE;1SMALL LETTER KOMI DE;1CAPITAL LETTER KOMI DJE;
1SMALL LETTER KOMI DJE;1CAPITAL LETTER KOMI ZJE;1SMALL LETTER KOMI ZJE;1CAPITAL LETTER KOMI DZJE;
1SMALL LETTER KOMI DZJE;1CAPITAL LETTER KOMI LJE;1SMALL LETTER KOMI LJE;1CAPITAL LETTER KOMI NJE;
1SMALL LETTER KOMI NJE;1CAPITAL LETTER KOMI SJE;1SMALL LETTER KOMI SJE;1CAPITAL LETTER KOMI TJE;
1SMALL LETTER KOMI TJE;1CAPITAL LETTER REVERSED ZE;1SMALL LETTER REVERSED ZE;
1CAPITAL LETTER EL WITH HOOK;1SMALL LETTER EL WITH HOOK;1CAPITAL LETTER LHA;1SMALL LETTER LHA;
1CAPITAL LETTER RHA;1SMALL LETTER RHA;1CAPITAL LETTER YAE;1SMALL LETTER YAE;1CAPITAL LETTER QA;
1SMALL LETTER QA;1CAPITAL LETTER WE;1SMALL LETTER WE;1CAPITAL LETTER ALEUT KA;
1SMALL LETTER ALEUT KA;1CAPITAL LETTER EL WITH MIDDLE HOOK;1SMALL LETTER EL WITH MIDDLE HOOK;
1CAPITAL LETTER EN WITH MIDDLE HOOK;1SMALL LETTER EN WITH MIDDLE HOOK;
1CAPITAL LETTER PE WITH DESCENDER;1SMALL LETTER PE WITH DESCENDER;
1CAPITAL LETTER SHHA WITH DESCENDER;1SMALL LETTER SHHA WITH DESCENDER;
1CAPITAL LETTER EN WITH LEFT HOOK;1SMALL LETTER EN WITH LEFT HOOK;1CAPITAL LETTER DZZHE;
1SMALL LETTER DZZHE;1CAPITAL LETTER DCHE;1SMALL LETTER DCHE;1CAPITAL LETTER EL WITH DESCENDER;
1SMALL LETTER EL WITH DESCENDER;=531;0ARMENIAN CAPITAL LETTER AYB;3BEN;3GIM;3DA;3ECH;3ZA;3EH;3ET;
3TO;3ZHE;3INI;3LIWN;3XEH;3CA;3KEN;3HO;3JA;3GHAD;3CHEH;3MEN;3YI;3NOW;3SHA;3VO;3CHA;3PEH;3JHEH;3RA;
3SEH;3VEW;3TIWN;3REH;3CO;3YIWN;3PIWR;3KEH;3OH;3FEH;=559;1MODIFIER LETTER LEFT HALF RING;1APOSTROPHE;
1EMPHASIS MARK;1EXCLAMATION MARK;1COMMA;1QUESTION MARK;1ABBREVIATION MARK;1SMALL LETTER TURNED AYB;
3AYB;3BEN;3GIM;3DA;3ECH;3ZA;3EH;3ET;3TO;3ZHE;3INI;3LIWN;3XEH;3CA;3KEN;3HO;3JA;3GHAD;3CHEH;3MEN;3YI;
3NOW;3SHA;3VO;3CHA;3PEH;3JHEH;3RA;3SEH;3VEW;3TIWN;3REH;3CO;3YIWN;3PIWR;3KEH;3OH;3FEH;
2LIGATURE ECH YIWN;2LETTER YI WITH STROKE;1FULL STOP;1HYPHEN;=58D;
0RIGHT-FACING ARMENIAN ETERNITY SIGN;0LEFT-FACING ARMENIAN ETERNITY SIGN;0ARMENIAN DRAM SIGN;=10A0;
0GEORGIAN CAPITAL LETTER AN;3BAN;3GAN;3DON;3EN;3VIN;3ZEN;3TAN;3IN;3KAN;3LAS;3MAN;3NAR;3ON;3PAR;
3ZHAR;3RAE;3SAN;3TAR;3UN;3PHAR;3KHAR;3GHAN;3QAR;3SHIN;3CHIN;3CAN;3JIL;3CIL;3CHAR;3XAN;3JHAN;3HAE;
3HE;3HIE;3WE;3HAR;3HOE;=10C7;3YN;=10CD;3AEN;=10D0;1LETTER AN;2BAN;2GAN;2DON;2EN;2VIN;2ZEN;2TAN;2IN;
2KAN;2LAS;2MAN;2NAR;2ON;2PAR;2ZHAR;2RAE;2SAN;2TAR;2UN;2PHAR;2KHAR;2GHAN;2QAR;2SHIN;2CHIN;2CAN;2JIL;
2CIL;2CHAR;2XAN;2JHAN;2HAE;2HE;2HIE;2WE;2HAR;2HOE;2FI;2YN;2ELIFI;2TURNED GAN;2AIN;
1PARAGRAPH SEPARATOR;0MODIFIER LETTER GEORGIAN NAR;0GEORGIAN LETTER AEN;2HARD SIGN;2LABIAL SIGN;
=1680;0OGHAM SPACE MARK;1LETTER BEITH;2LUIS;2FEARN;2SAIL;2NION;2UATH;2DAIR;2TINNE;2COLL;2CEIRT;
2MUIN;2GORT;2NGEADAL;2STRAIF;2RUIS;2AILM;2ONN;2UR;2EADHADH;2IODHADH;2EABHADH;2OR;2UILLEANN;2IFIN;
2EAMHANCHOLL;2PEITH;1FEATHER MARK;1REVERSED FEATHER MARK;=16A0;0RUNIC LETTER FEHU FEOH FE F;2V;
2URUZ UR U;2YR;2Y;2W;2THURISAZ THURS THORN;2ETH;2ANSUZ A;2OS O;2AC A;2AESC;2LONG-BRANCH-OSS O;
2SHORT-TWIG-OSS O;2O;2OE;2ON;2RAIDO RAD REID R;2KAUNA;2CEN;2KAUN K;2G;2ENG;2GEBO GYFU G;2GAR;
2WUNJO WYNN W;2HAGLAZ H;2HAEGL H;2LONG-BRANCH-HAGALL H;2SHORT-TWIG-HAGALL H;2NAUDIZ NYD NAUD N;
2SHORT-TWIG-NAUD N;2DOTTED-N;2ISAZ IS ISS I;2E;2JERAN J;2GER;2LONG-BRANCH-AR AE;2SHORT-TWIG-AR A;
2IWAZ EOH;2PERTHO PEORTH P;2ALGIZ EOLHX;2SOWILO S;2SIGEL LONG-BRANCH-SOL S;2SHORT-TWIG-SOL S;2C;2Z;
2TIWAZ TIR TYR T;2SHORT-TWIG-TYR T;2D;2BERKANAN BEORC BJARKAN B;2SHORT-TWIG-BJARKAN B;2DOTTED-P;
2OPEN-P;2EHWAZ EH E;2MANNAZ MAN M;2LONG-BRANCH-MADR M;2SHORT-TWIG-MADR M;2LAUKAZ LAGU LOGR L;
2DOTTED-L;2INGWAZ;2ING;2DAGAZ DAEG D;2OTHALAN ETHEL O;2EAR;2IOR;2CWEORTH;2CALC;2CEALC;2STAN;
2LONG-BRANCH-YR;2SHORT-TWIG-YR;2ICELANDIC-YR;2Q;2X;1SINGLE PUNCTUATION;1MULTIPLE PUNCTUATION;
1CROSS PUNCTUATION;1ARLAUG SYMBOL;1TVIMADUR SYMBOL;1BELGTHOR SYMBOL;1LETTER K;2SH;2OO;
2FRANKS CASKET OS;4IS;4EH;4AC;4AESC;=1AB0;0COMBINING DOUBLED CIRCUMFLEX ACCENT;1DIAERESIS-RING;
1INFINITY;1DOWNWARDS ARROW;1TRIPLE DOT;1X-X BELOW;1WIGGLY LINE BELOW;1OPEN MARK BELOW;
1DOUBLE OPEN MARK BELOW;1LIGHT CENTRALIZATION STROKE BELOW;1STRONG CENTRALIZATION STROKE BELOW;
1PARENTHESES ABOVE;1DOUBLE PARENTHESES ABOVE;1PARENTHESES BELOW;2OVERLAY;
1LATIN SMALL LETTER W BELOW;4TURNED W BELOW;1LEFT PARENTHESIS ABOVE LEFT;
1RIGHT PARENTHESIS ABOVE RIGHT;1LEFT PARENTHESIS BELOW LEFT;1RIGHT PARENTHESIS BELOW RIGHT;
1SQUARE BRACKETS ABOVE;1NUMBER SIGN ABOVE;1INVERTED DOUBLE ARCH ABOVE;1PLUS SIGN ABOVE;
1DOUBLE PLUS SIGN ABOVE;4BELOW;1TRIPLE ACUTE ACCENT;1LATIN SMALL LETTER INSULAR G;5R;5T;=1C80;
0CYRILLIC SMALL LETTER ROUNDED VE;3LONG-LEGGED DE;3NARROW O;3WIDE ES;3TALL TE;3THREE-LEGGED TE;
3TALL HARD SIGN;4YAT;3UNBLENDED UK;=1C90;0GEORGIAN MTAVRULI CAPITAL LETTER AN;4BAN;4GAN;4DON;4EN;
4VIN;4ZEN;4TAN;4IN;4KAN;4LAS;4MAN;4NAR;4ON;4PAR;4ZHAR;4RAE;4SAN;4TAR;4UN;4PHAR;4KHAR;4GHAN;4QAR;
4SHIN;4CHIN;4CAN;4JIL;4CIL;4CHAR;4XAN;4JHAN;4HAE;4HE;4HIE;4WE;4HAR;4HOE;4FI;4YN;4ELIFI;4TURNED GAN;
4AIN;=1CBD;4AEN;4HARD SIGN;4LABIAL SIGN;=1D00;0LATIN LETTER SMALL CAPITAL A;4AE;
1SMALL LETTER TURNED AE;1LETTER SMALL CAPITAL BARRED B;4C;4D;4ETH;4E;1SMALL LETTER TURNED OPEN E;4I;
1LETTER SMALL CAPITAL J;4K;4L WITH STROKE;4M;4REVERSED N;4O;4OPEN O;1SMALL LETTER SIDEWAYS O;
4OPEN O;4O WITH STROKE;3TURNED OE;1LETTER SMALL CAPITAL OU;1SMALL LETTER TOP HALF O;3BOTTOM HALF O;
1LETTER SMALL CAPITAL P;4REVERSED R;4TURNED R;4T;4U;1SMALL LETTER SIDEWAYS U;4DIAERESIZED U;
4TURNED M;1LETTER SMALL CAPITAL V;4W;4Z;4EZH;2VOICED LARYNGEAL SPIRANT;2AIN;
0GREEK LETTER SMALL CAPITAL GAMMA;4LAMDA;4PI;4RHO;4PSI;0CYRILLIC LETTER SMALL CAPITAL EL;
0MODIFIER LETTER CAPITAL A;3AE;3B;3BARRED B;3D;3E;3REVERSED E;3G;3H;3I;3J;3K;3L;3M;3N;3REVERSED N;
3O;3OU;3P;3R;3T;3U;3W;2SMALL A;3TURNED A;3ALPHA;3TURNED AE;3B;3D;3E;3SCHWA;3OPEN E;3TURNED OPEN E;
3G;3TURNED I;3K;3M;3ENG;3O;3OPEN O;3TOP HALF O;3BOTTOM HALF O;3P;3T;3U;3SIDEWAYS U;3TURNED M;3V;
3AIN;3BETA;3GREEK GAMMA;3DELTA;3GREEK PHI;3CHI;0LATIN SUBSCRIPT SMALL LETTER I;4R;4U;4V;
0GREEK SUBSCRIPT SMALL LETTER BETA;4GAMMA;4RHO;4PHI;4CHI;0LATIN SMALL LETTER UE;
3B WITH MIDDLE TILDE;3D WITH MIDDLE TILDE;3F WITH MIDDLE TILDE;3M WITH MIDDLE TILDE;
3N WITH MIDDLE TILDE;3P WITH MIDDLE TILDE;3R WITH MIDDLE TILDE;5FISHHOOK AND MIDDLE TILDE;
3S WITH MIDDLE TILDE;3T WITH MIDDLE TILDE;3Z WITH MIDDLE TILDE;3TURNED G;
0MODIFIER LETTER CYRILLIC EN;0LATIN SMALL LETTER INSULAR G;3TH WITH STRIKETHROUGH;
2CAPITAL LETTER I WITH STROKE;2LETTER IOTA WITH STROKE;3P WITH STROKE;2CAPITAL LETTER U WITH STROKE;
2LETTER UPSILON WITH STROKE;3B WITH PALATAL HOOK;3D WITH PALATAL HOOK;3F WITH PALATAL HOOK;
3G WITH PALATAL HOOK;3K WITH PALATAL HOOK;3L WITH PALATAL HOOK;3M WITH PALATAL HOOK;
3N WITH PALATAL HOOK;3P WITH PALATAL HOOK;3R WITH PALATAL HOOK;3S WITH PALATAL HOOK;
3ESH WITH PALATAL HOOK;3V WITH PALATAL HOOK;3X WITH PALATAL HOOK;3Z WITH PALATAL HOOK;
3A WITH RETROFLEX HOOK;3ALPHA WITH RETROFLEX HOOK;3D WITH HOOK AND TAIL;3E WITH RETROFLEX HOOK;
3OPEN E WITH RETROFLEX HOOK;3REVERSED OPEN E WITH RETROFLEX HOOK;3SCHWA WITH RETROFLEX HOOK;
3I WITH RETROFLEX HOOK;3OPEN O WITH RETROFLEX HOOK;3ESH WITH RETROFLEX HOOK;3U WITH RETROFLEX HOOK;
3EZH WITH RETROFLEX HOOK;0MODIFIER LETTER SMALL TURNED ALPHA;3C;4WITH CURL;3ETH;3REVERSED OPEN E;3F;
3DOTLESS J WITH STROKE;3SCRIPT G;3TURNED H;3I WITH STROKE;3IOTA;3CAPITAL I;5WITH STROKE;
3J WITH CROSSED-TAIL;3L WITH RETROFLEX HOOK;5PALATAL HOOK;3CAPITAL L;3M WITH HOOK;
3TURNED M WITH LONG LEG;3N WITH LEFT HOOK;5RETROFLEX HOOK;3CAPITAL N;3BARRED O;3PHI;3S WITH HOOK;
3ESH;3T WITH PALATAL HOOK;3U BAR;3UPSILON;3CAPITAL U;3V WITH HOOK;3TURNED V;3Z;4WITH RETROFLEX HOOK;
5CURL;3EZH;3THETA;0COMBINING DOTTED GRAVE ACCENT;2ACUTE ACCENT;1SNAKE BELOW;1SUSPENSION MARK;
1MACRON-ACUTE;1GRAVE-MACRON;1MACRON-GRAVE;1ACUTE-MACRON;1GRAVE-ACUTE-GRAVE;1ACUTE-GRAVE-ACUTE;
1LATIN SMALL LETTER R BELOW;1BREVE-MACRON;1MACRON-BREVE;1DOUBLE CIRCUMFLEX ABOVE;1OGONEK ABOVE;
1ZIGZAG BELOW;1IS BELOW;1UR ABOVE;1US ABOVE;1LATIN SMALL LETTER FLATTENED OPEN A ABOVE;4AE;4AO;4AV;
4C CEDILLA;4INSULAR D;4ETH;4G;2LETTER SMALL CAPITAL G;2SMALL LETTER K;4L;2LETTER SMALL CAPITAL L;5M;
2SMALL LETTER N;2LETTER SMALL CAPITAL N;5R;2SMALL LETTER R ROTUNDA;4S;4LONG S;4Z;4ALPHA;4B;4BETA;
4SCHWA;4F;4L WITH DOUBLE MIDDLE TILDE;4O WITH LIGHT CENTRALIZATION STROKE;4P;4ESH;
4U WITH LIGHT CENTRALIZATION STROKE;4W;4A WITH DIAERESIS;4O WITH DIAERESIS;4U WITH DIAERESIS;
1UP TACK ABOVE;1KAVYKA ABOVE RIGHT;3LEFT;1DOT ABOVE LEFT;1WIDE INVERTED BRIDGE BELOW;
1DOT BELOW LEFT;1DELETION MARK;1DOUBLE INVERTED BREVE BELOW;1ALMOST EQUAL TO BELOW;
1LEFT ARROWHEAD ABOVE;1RIGHT ARROWHEAD AND DOWN ARROWHEAD BELOW;
0LATIN CAPITAL LETTER A WITH RING BELOW;1SMALL LETTER A WITH RING BELOW;
1CAPITAL LETTER B WITH DOT ABOVE;1SMALL LETTER B WITH DOT ABOVE;1CAPITAL LETTER B WITH DOT BELOW;
1SMALL LETTER B WITH DOT BELOW;1CAPITAL LETTER B WITH LINE BELOW;1SMALL LETTER B WITH LINE BELOW;
1CAPITAL LETTER C WITH CEDILLA AND ACUTE;1SMALL LETTER C WITH CEDILLA AND ACUTE;
1CAPITAL LETTER D WITH DOT ABOVE;1SMALL LETTER D WITH DOT ABOVE;1CAPITAL LETTER D WITH DOT BELOW;
1SMALL LETTER D WITH DOT BELOW;1CAPITAL LETTER D WITH LINE BELOW;1SMALL LETTER D WITH LINE BELOW;
1CAPITAL LETTER D WITH CEDILLA;1SMALL LETTER D WITH CEDILLA;1CAPITAL LETTER D WITH CIRCUMFLEX BELOW;
1SMALL LETTER D WITH CIRCUMFLEX BELOW;1CAPITAL LETTER E WITH MACRON AND GRAVE;
1SMALL LETTER E WITH MACRON AND GRAVE;1CAPITAL LETTER E WITH MACRON AND ACUTE;
1SMALL LETTER E WITH MACRON AND ACUTE;1CAPITAL LETTER E WITH CIRCUMFLEX BELOW;
1SMALL LETTER E WITH CIRCUMFLEX BELOW;1CAPITAL LETTER E WITH TILDE BELOW;
1SMALL LETTER E WITH TILDE BELOW;1CAPITAL LETTER E WITH CEDILLA AND BREVE;
1SMALL LETTER E WITH CEDILLA AND BREVE;1CAPITAL LETTER F WITH DOT ABOVE;
1SMALL LETTER F WITH DOT ABOVE;1CAPITAL LETTER G WITH MACRON;1SMALL LETTER G WITH MACRON;
1CAPITAL LETTER H WITH DOT ABOVE;1SMALL LETTER H WITH DOT ABOVE;1CAPITAL LETTER H WITH DOT BELOW;
1SMALL LETTER H WITH DOT BELOW;1CAPITAL LETTER H WITH DIAERESIS;1SMALL LETTER H WITH DIAERESIS;
1CAPITAL LETTER H WITH CEDILLA;1SMALL LETTER H WITH CEDILLA;1CAPITAL LETTER H WITH BREVE BELOW;
1SMALL LETTER H WITH BREVE BELOW;1CAPITAL LETTER I WITH TILDE BELOW;
1SMALL LETTER I WITH TILDE BELOW;1CAPITAL LETTER I WITH DIAERESIS AND ACUTE;
1SMALL LETTER I WITH DIAERESIS AND ACUTE;1CAPITAL LETTER K WITH ACUTE;1SMALL LETTER K WITH ACUTE;
1CAPITAL LETTER K WITH DOT BELOW;1SMALL LETTER K WITH DOT BELOW;1CAPITAL LETTER K WITH LINE BELOW;
1SMALL LETTER K WITH LINE BELOW;1CAPITAL LETTER L WITH DOT BELOW;1SMALL LETTER L WITH DOT BELOW;
1CAPITAL LETTER L WITH DOT BELOW AND MACRON;1SMALL LETTER L WITH DOT BELOW AND MACRON;
1CAPITAL LETTER L WITH LINE BELOW;1SMALL LETTER L WITH LINE BELOW;
1CAPITAL LETTER L WITH CIRCUMFLEX BELOW;1SMALL LETTER L WITH CIRCUMFLEX BELOW;
1CAPITAL LETTER M WITH ACUTE;1SMALL LETTER M WITH ACUTE;1CAPITAL LETTER M WITH DOT ABOVE;
1SMALL LETTER M WITH DOT ABOVE;1CAPITAL LETTER M WITH DOT BELOW;1SMALL LETTER M WITH DOT BELOW;
1CAPITAL LETTER N WITH DOT ABOVE;1SMALL LETTER N WITH DOT ABOVE;1CAPITAL LETTER N WITH DOT BELOW;
1SMALL LETTER N WITH DOT BELOW;1CAPITAL LETTER N WITH LINE BELOW;1SMALL LETTER N WITH LINE BELOW;
1CAPITAL LETTER N WITH CIRCUMFLEX BELOW;1SMALL LETTER N WITH CIRCUMFLEX BELOW;
1CAPITAL LETTER O WITH TILDE AND ACUTE;1SMALL LETTER O WITH TILDE AND ACUTE;
1CAPITAL LETTER O WITH TILDE AND DIAERESIS;1SMALL LETTER O WITH TILDE AND DIAERESIS;
1CAPITAL LETTER O WITH MACRON AND GRAVE;1SMALL LETTER O WITH MACRON AND GRAVE;
1CAPITAL LETTER O WITH MACRON AND ACUTE;1SMALL LETTER O WITH MACRON AND ACUTE;
1CAPITAL LETTER P WITH ACUTE;1SMALL LETTER P WITH ACUTE;1CAPITAL LETTER P WITH DOT ABOVE;
1SMALL LETTER P WITH DOT ABOVE;1CAPITAL LETTER R WITH DOT ABOVE;1SMALL LETTER R WITH DOT ABOVE;
1CAPITAL LETTER R WITH DOT BELOW;1SMALL LETTER R WITH DOT BELOW;
1CAPITAL LETTER R WITH DOT BELOW AND MACRON;1SMALL LETTER R WITH DOT BELOW AND MACRON;
1CAPITAL LETTER R WITH LINE BELOW;1SMALL LETTER R WITH LINE BELOW;1CAPITAL LETTER S WITH DOT ABOVE;
1SMALL LETTER S WITH DOT ABOVE;1CAPITAL LETTER S WITH DOT BELOW;1SMALL LETTER S WITH DOT BELOW;
1CAPITAL LETTER S WITH ACUTE AND DOT ABOVE;1SMALL LETTER S WITH ACUTE AND DOT ABOVE;
1CAPITAL LETTER S WITH CARON AND DOT ABOVE;1SMALL LETTER S WITH CARON AND DOT ABOVE;
1CAPITAL LETTER S WITH DOT BELOW AND DOT ABOVE;1SMALL LETTER S WITH DOT BELOW AND DOT ABOVE;
1CAPITAL LETTER T WITH DOT ABOVE;1SMALL LETTER T WITH DOT ABOVE;1CAPITAL LETTER T WITH DOT BELOW;
1SMALL LETTER T WITH DOT BELOW;1CAPITAL LETTER T WITH LINE BELOW;1SMALL LETTER T WITH LINE BELOW;
1CAPITAL LETTER T WITH CIRCUMFLEX BELOW;1SMALL LETTER T WITH CIRCUMFLEX BELOW;
1CAPITAL LETTER U WITH DIAERESIS BELOW;1SMALL LETTER U WITH DIAERESIS BELOW;
1CAPITAL LETTER U WITH TILDE BELOW;1SMALL LETTER U WITH TILDE BELOW;
1CAPITAL LETTER U WITH CIRCUMFLEX BELOW;1SMALL LETTER U WITH CIRCUMFLEX BELOW;
1CAPITAL LETTER U WITH TILDE AND ACUTE;1SMALL LETTER U WITH TILDE AND ACUTE;
1CAPITAL LETTER U WITH MACRON AND DIAERESIS;1SMALL LETTER U WITH MACRON AND DIAERESIS;
1CAPITAL LETTER V WITH TILDE;1SMALL LETTER V WITH TILDE;1CAPITAL LETTER V WITH DOT BELOW;
1SMALL LETTER V WITH DOT BELOW;1CAPITAL LETTER W WITH GRAVE;1SMALL LETTER W WITH GRAVE;
1CAPITAL LETTER W WITH ACUTE;1SMALL LETTER W WITH ACUTE;1CAPITAL LETTER W WITH DIAERESIS;
1SMALL LETTER W WITH DIAERESIS;1CAPITAL LETTER W WITH DOT ABOVE;1SMALL LETTER W WITH DOT ABOVE;
1CAPITAL LETTER W WITH DOT BELOW;1SMALL LETTER W WITH DOT BELOW;1CAPITAL LETTER X WITH DOT ABOVE;
1SMALL LETTER X WITH DOT ABOVE;1CAPITAL LETTER X WITH DIAERESIS;1SMALL LETTER X WITH DIAERESIS;
1CAPITAL LETTER Y WITH DOT ABOVE;1SMALL LETTER Y WITH DOT ABOVE;1CAPITAL LETTER Z WITH CIRCUMFLEX;
1SMALL LETTER Z WITH CIRCUMFLEX;1CAPITAL LETTER Z WITH DOT BELOW;1SMALL LETTER Z WITH DOT BELOW;
1CAPITAL LETTER Z WITH LINE BELOW;1SMALL LETTER Z WITH LINE BELOW;3H WITH LINE BELOW;
3T WITH DIAERESIS;3W WITH RING ABOVE;3Y WITH RING ABOVE;3A WITH RIGHT HALF RING;
3LONG S WITH DOT ABOVE;6DIAGONAL STROKE;6HIGH STROKE;1CAPITAL LETTER SHARP S;1SMALL LETTER DELTA;
1CAPITAL LETTER A WITH DOT BELOW;1SMALL LETTER A WITH DOT BELOW;1CAPITAL LETTER A WITH HOOK ABOVE;
1SMALL LETTER A WITH HOOK ABOVE;1CAPITAL LETTER A WITH CIRCUMFLEX AND ACUTE;
1SMALL LETTER A WITH CIRCUMFLEX AND ACUTE;1CAPITAL LETTER A WITH CIRCUMFLEX AND GRAVE;
1SMALL LETTER A WITH CIRCUMFLEX AND GRAVE;1CAPITAL LETTER A WITH CIRCUMFLEX AND HOOK ABOVE;
1SMALL LETTER A WITH CIRCUMFLEX AND HOOK ABOVE;1CAPITAL LETTER A WITH CIRCUMFLEX AND TILDE;
1SMALL LETTER A WITH CIRCUMFLEX AND TILDE;1CAPITAL LETTER A WITH CIRCUMFLEX AND DOT BELOW;
1SMALL LETTER A WITH CIRCUMFLEX AND DOT BELOW;1CAPITAL LETTER A WITH BREVE AND ACUTE;
1SMALL LETTER A WITH BREVE AND ACUTE;1CAPITAL LETTER A WITH BREVE AND GRAVE;
1SMALL LETTER A WITH BREVE AND GRAVE;1CAPITAL LETTER A WITH BREVE AND HOOK ABOVE;
1SMALL LETTER A WITH BREVE AND HOOK ABOVE;1CAPITAL LETTER A WITH BREVE AND TILDE;
1SMALL LETTER A WITH BREVE AND TILDE;1CAPITAL LETTER A WITH BREVE AND DOT BELOW;
1SMALL LETTER A WITH BREVE AND DOT BELOW;1CAPITAL LETTER E WITH DOT BELOW;
1SMALL LETTER E WITH DOT BELOW;1CAPITAL LETTER E WITH HOOK ABOVE;1SMALL LETTER E WITH HOOK ABOVE;
1CAPITAL LETTER E WITH TILDE;1SMALL LETTER E WITH TILDE;1CAPITAL LETTER E WITH CIRCUMFLEX AND ACUTE;
1SMALL LETTER E WITH CIRCUMFLEX AND ACUTE;1CAPITAL LETTER E WITH CIRCUMFLEX AND GRAVE;
1SMALL LETTER E WITH CIRCUMFLEX AND GRAVE;1CAPITAL LETTER E WITH CIRCUMFLEX AND HOOK ABOVE;
1SMALL LETTER E WITH CIRCUMFLEX AND HOOK ABOVE;1CAPITAL LETTER E WITH CIRCUMFLEX AND TILDE;
1SMALL LETTER E WITH CIRCUMFLEX AND TILDE;1CAPITAL LETTER E WITH CIRCUMFLEX AND DOT BELOW;
1SMALL LETTER E WITH CIRCUMFLEX AND DOT BELOW;1CAPITAL LETTER I WITH HOOK ABOVE;
1SMALL LETTER I WITH HOOK ABOVE;1CAPITAL LETTER I WITH DOT BELOW;1SMALL LETTER I WITH DOT BELOW;
1CAPITAL LETTER O WITH DOT BELOW;1SMALL LETTER O WITH DOT BELOW;1CAPITAL LETTER O WITH HOOK ABOVE;
1SMALL LETTER O WITH HOOK ABOVE;1CAPITAL LETTER O WITH CIRCUMFLEX AND ACUTE;
1SMALL LETTER O WITH CIRCUMFLEX AND ACUTE;1CAPITAL LETTER O WITH CIRCUMFLEX AND GRAVE;
1SMALL LETTER O WITH CIRCUMFLEX AND GRAVE;1CAPITAL LETTER O WITH CIRCUMFLEX AND HOOK ABOVE;
1SMALL LETTER O WITH CIRCUMFLEX AND HOOK ABOVE;1CAPITAL LETTER O WITH CIRCUMFLEX AND TILDE;
1SMALL LETTER O WITH CIRCUMFLEX AND TILDE;1CAPITAL LETTER O WITH CIRCUMFLEX AND DOT BELOW;
1SMALL LETTER O WITH CIRCUMFLEX AND DOT BELOW;1CAPITAL LETTER O WITH HORN AND ACUTE;
1SMALL LETTER O WITH HORN AND ACUTE;1CAPITAL LETTER O WITH HORN AND GRAVE;
1SMALL LETTER O WITH HORN AND GRAVE;1CAPITAL LETTER O WITH HORN AND HOOK ABOVE;
1SMALL LETTER O WITH HORN AND HOOK ABOVE;1CAPITAL LETTER O WITH HORN AND TILDE;
1SMALL LETTER O WITH HORN AND TILDE;1CAPITAL LETTER O WITH HORN AND DOT BELOW;
1SMALL LETTER O WITH HORN AND DOT BELOW;1CAPITAL LETTER U WITH DOT BELOW;
1SMALL LETTER U WITH DOT BELOW;1CAPITAL LETTER U WITH HOOK ABOVE;1SMALL LETTER U WITH HOOK ABOVE;
1CAPITAL LETTER U WITH HORN AND ACUTE;1SMALL LETTER U WITH HORN AND ACUTE;
1CAPITAL LETTER U WITH HORN AND GRAVE;1SMALL LETTER U WITH HORN AND GRAVE;
1CAPITAL LETTER U WITH HORN AND HOOK ABOVE;1SMALL LETTER U WITH HORN AND HOOK ABOVE;
1CAPITAL LETTER U WITH HORN AND TILDE;1SMALL LETTER U WITH HORN AND TILDE;
1CAPITAL LETTER U WITH HORN AND DOT BELOW;1SMALL LETTER U WITH HORN AND DOT BELOW;
1CAPITAL LETTER Y WITH GRAVE;1SMALL LETTER Y WITH GRAVE;1CAPITAL LETTER Y WITH DOT BELOW;
1SMALL LETTER Y WITH DOT BELOW;1CAPITAL LETTER Y WITH HOOK ABOVE;1SMALL LETTER Y WITH HOOK ABOVE;
1CAPITAL LETTER Y WITH TILDE;1SMALL LETTER Y WITH TILDE;1CAPITAL LETTER MIDDLE-WELSH LL;
1SMALL LETTER MIDDLE-WELSH LL;1CAPITAL LETTER MIDDLE-WELSH V;1SMALL LETTER MIDDLE-WELSH V;
1CAPITAL LETTER Y WITH LOOP;1SMALL LETTER Y WITH LOOP;0GREEK SMALL LETTER ALPHA WITH PSILI;5DASIA;
5PSILI AND VARIA;5DASIA AND VARIA;5PSILI AND OXIA;5DASIA AND OXIA;5PSILI AND PERISPOMENI;
5DASIA AND PERISPOMENI;1CAPITAL LETTER ALPHA WITH PSILI;5DASIA;5PSILI AND VARIA;5DASIA AND VARIA;
5PSILI AND OXIA;5DASIA AND OXIA;5PSILI AND PERISPOMENI;5DASIA AND PERISPOMENI;
1SMALL LETTER EPSILON WITH PSILI;5DASIA;5PSILI AND VARIA;5DASIA AND VARIA;5PSILI AND OXIA;
5DASIA AND OXIA;=1F18;1CAPITAL LETTER EPSILON WITH PSILI;5DASIA;5PSILI AND VARIA;5DASIA AND VARIA;
5PSILI AND OXIA;5DASIA AND OXIA;=1F20;1SMALL LETTER ETA WITH PSILI;5DASIA;5PSILI AND VARIA;
5DASIA AND VARIA;5PSILI AND OXIA;5DASIA AND OXIA;5PSILI AND PERISPOMENI;5DASIA AND PERISPOMENI;
1CAPITAL LETTER ETA WITH PSILI;5DASIA;5PSILI AND VARIA;5DASIA AND VARIA;5PSILI AND OXIA;
5DASIA AND OXIA;5PSILI AND PERISPOMENI;5DASIA AND PERISPOMENI;1SMALL LETTER IOTA WITH PSILI;5DASIA;
5PSILI AND VARIA;5DASIA AND VARIA;5PSILI AND OXIA;5DASIA AND OXIA;5PSILI AND PERISPOMENI;
5DASIA AND PERISPOMENI;1CAPITAL LETTER IOTA WITH PSILI;5DASIA;5PSILI AND VARIA;5DASIA AND VARIA;
5PSILI AND OXIA;5DASIA AND OXIA;5PSILI AND PERISPOMENI;5DASIA AND PERISPOMENI;
1SMALL LETTER OMICRON WITH PSILI;5DASIA;5PSILI AND VARIA;5DASIA AND VARIA;5PSILI AND OXIA;
5DASIA AND OXIA;=1F48;1CAPITAL LETTER OMICRON WITH PSILI;5DASIA;5PSILI AND VARIA;5DASIA AND VARIA;
5PSILI AND OXIA;5DASIA AND OXIA;=1F50;1SMALL LETTER UPSILON WITH PSILI;5DASIA;5PSILI AND VARIA;
5DASIA AND VARIA;5PSILI AND OXIA;5DASIA AND OXIA;5PSILI AND PERISPOMENI;5DASIA AND PERISPOMENI;
=1F59;1CAPITAL LETTER UPSILON WITH DASIA;=1F5B;6AND VARIA;=1F5D;7OXIA;=1F5F;7PERISPOMENI;
1SMALL LETTER OMEGA WITH PSILI;5DASIA;5PSILI AND VARIA;5DASIA AND VARIA;5PSILI AND OXIA;
5DASIA AND OXIA;5PSILI AND PERISPOMENI;5DASIA AND PERISPOMENI;1CAPITAL LETTER OMEGA WITH PSILI;
5DASIA;5PSILI AND VARIA;5DASIA AND VARIA;5PSILI AND OXIA;5DASIA AND OXIA;5PSILI AND PERISPOMENI;
5DASIA AND PERISPOMENI;1SMALL LETTER ALPHA WITH VARIA;5OXIA;3EPSILON WITH VARIA;5OXIA;
3ETA WITH VARIA;5OXIA;3IOTA WITH VARIA;5OXIA;3OMICRON WITH VARIA;5OXIA;3UPSILON WITH VARIA;5OXIA;
3OMEGA WITH VARIA;5OXIA;=1F80;3ALPHA WITH PSILI AND YPOGEGRAMMENI;5DASIA AND YPOGEGRAMMENI;
5PSILI AND VARIA AND YPOGEGRAMMENI;5DASIA AND VARIA AND YPOGEGRAMMENI;
5PSILI AND OXIA AND YPOGEGRAMMENI;5DASIA AND OXIA AND YPOGEGRAMMENI;
5PSILI AND PERISPOMENI AND YPOGEGRAMMENI;5DASIA AND PERISPOMENI AND YPOGEGRAMMENI;
1CAPITAL LETTER ALPHA WITH PSILI AND PROSGEGRAMMENI;5DASIA AND PROSGEGRAMMENI;
5PSILI AND VARIA AND PROSGEGRAMMENI;5DASIA AND VARIA AND PROSGEGRAMMENI;
5PSILI AND OXIA AND PROSGEGRAMMENI;5DASIA AND OXIA AND PROSGEGRAMMENI;
5PSILI AND PERISPOMENI AND PROSGEGRAMMENI;5DASIA AND PERISPOMENI AND PROSGEGRAMMENI;
1SMALL LETTER ETA WITH PSILI AND YPOGEGRAMMENI;5DASIA AND YPOGEGRAMMENI;
5PSILI AND VARIA AND YPOGEGRAMMENI;5DASIA AND VARIA AND YPOGEGRAMMENI;
5PSILI AND OXIA AND YPOGEGRAMMENI;5DASIA AND OXIA AND YPOGEGRAMMENI;
5PSILI AND PERISPOMENI AND YPOGEGRAMMENI;5DASIA AND PERISPOMENI AND YPOGEGRAMMENI;
1CAPITAL LETTER ETA WITH PSILI AND PROSGEGRAMMENI;5DASIA AND PROSGEGRAMMENI;
5PSILI AND VARIA AND PROSGEGRAMMENI;5DASIA AND VARIA AND PROSGEGRAMMENI;
5PSILI AND OXIA AND PROSGEGRAMMENI;5DASIA AND OXIA AND PROSGEGRAMMENI;
5PSILI AND PERISPOMENI AND PROSGEGRAMMENI;5DASIA AND PERISPOMENI AND PROSGEGRAMMENI;
1SMALL LETTER OMEGA WITH PSILI AND YPOGEGRAMMENI;5DASIA AND YPOGEGRAMMENI;
5PSILI AND VARIA AND YPOGEGRAMMENI;5DASIA AND VARIA AND YPOGEGRAMMENI;
5PSILI AND OXIA AND YPOGEGRAMMENI;5DASIA AND OXIA AND YPOGEGRAMMENI;
5PSILI AND PERISPOMENI AND YPOGEGRAMMENI;5DASIA AND PERISPOMENI AND YPOGEGRAMMENI;
1CAPITAL LETTER OMEGA WITH PSILI AND PROSGEGRAMMENI;5DASIA AND PROSGEGRAMMENI;
5PSILI AND VARIA AND PROSGEGRAMMENI;5DASIA AND VARIA AND PROSGEGRAMMENI;
5PSILI AND OXIA AND PROSGEGRAMMENI;5DASIA AND OXIA AND PROSGEGRAMMENI;
5PSILI AND PERISPOMENI AND PROSGEGRAMMENI;5DASIA AND PERISPOMENI AND PROSGEGRAMMENI;
1SMALL LETTER ALPHA WITH VRACHY;5MACRON;5VARIA AND YPOGEGRAMMENI;5YPOGEGRAMMENI;
5OXIA AND YPOGEGRAMMENI;=1FB6;5PERISPOMENI;6AND YPOGEGRAMMENI;1CAPITAL LETTER ALPHA WITH VRACHY;
5MACRON;5VARIA;5OXIA;5PROSGEGRAMMENI;1KORONIS;1PROSGEGRAMMENI;1PSILI;1PERISPOMENI;
1DIALYTIKA AND PERISPOMENI;1SMALL LETTER ETA WITH VARIA AND YPOGEGRAMMENI;5YPOGEGRAMMENI;
5OXIA AND YPOGEGRAMMENI;=1FC6;5PERISPOMENI;6AND YPOGEGRAMMENI;1CAPITAL LETTER EPSILON WITH VARIA;
5OXIA;3ETA WITH VARIA;5OXIA;5PROSGEGRAMMENI;1PSILI AND VARIA;3OXIA;3PERISPOMENI;
1SMALL LETTER IOTA WITH VRACHY;5MACRON;5DIALYTIKA AND VARIA;7OXIA;=1FD6;5PERISPOMENI;
5DIALYTIKA AND PERISPOMENI;1CAPITAL LETTER IOTA WITH VRACHY;5MACRON;5VARIA;5OXIA;=1FDD;
1DASIA AND VARIA;3OXIA;3PERISPOMENI;1SMALL LETTER UPSILON WITH VRACHY;5MACRON;5DIALYTIKA AND VARIA;
7OXIA;3RHO WITH PSILI;5DASIA;3UPSILON WITH PERISPOMENI;5DIALYTIKA AND PERISPOMENI;
1CAPITAL LETTER UPSILON WITH VRACHY;5MACRON;5VARIA;5OXIA;3RHO WITH DASIA;1DIALYTIKA AND VARIA;3OXIA;
1VARIA;=1FF2;1SMALL LETTER OMEGA WITH VARIA AND YPOGEGRAMMENI;5YPOGEGRAMMENI;
5OXIA AND YPOGEGRAMMENI;=1FF6;5PERISPOMENI;6AND YPOGEGRAMMENI;1CAPITAL LETTER OMICRON WITH VARIA;
5OXIA;3OMEGA WITH VARIA;5OXIA;5PROSGEGRAMMENI;1OXIA;1DASIA;=2C00;0GLAGOLITIC CAPITAL LETTER AZU;
3BUKY;3VEDE;3GLAGOLI;3DOBRO;3YESTU;3ZHIVETE;3DZELO;3ZEMLJA;3IZHE;3INITIAL IZHE;3I;3DJERVI;3KAKO;
3LJUDIJE;3MYSLITE;3NASHI;3ONU;3POKOJI;3RITSI;3SLOVO;3TVRIDO;3UKU;3FRITU;3HERU;3OTU;3PE;3SHTA;3TSI;
3CHRIVI;3SHA;3YERU;3YERI;3YATI;3SPIDERY HA;3YU;3SMALL YUS;5WITH TAIL;3YO;3IOTATED SMALL YUS;
3BIG YUS;3IOTATED BIG YUS;3FITA;3IZHITSA;3SHTAPIC;3TROKUTASTI A;3LATINATE MYSLITE;3CAUDATE CHRIVI;
1SMALL LETTER AZU;3BUKY;3VEDE;3GLAGOLI;3DOBRO;3YESTU;3ZHIVETE;3DZELO;3ZEMLJA;3IZHE;3INITIAL IZHE;3I;
3DJERVI;3KAKO;3LJUDIJE;3MYSLITE;3NASHI;3ONU;3POKOJI;3RITSI;3SLOVO;3TVRIDO;3UKU;3FRITU;3HERU;3OTU;
3PE;3SHTA;3TSI;3CHRIVI;3SHA;3YERU;3YERI;3YATI;3SPIDERY HA;3YU;3SMALL YUS;5WITH TAIL;3YO;
3IOTATED SMALL YUS;3BIG YUS;3IOTATED BIG YUS;3FITA;3IZHITSA;3SHTAPIC;3TROKUTASTI A;
3LATINATE MYSLITE;3CAUDATE CHRIVI;0LATIN CAPITAL LETTER L WITH DOUBLE BAR;
1SMALL LETTER L WITH DOUBLE BAR;1CAPITAL LETTER L WITH MIDDLE TILDE;3P WITH STROKE;3R WITH TAIL;
1SMALL LETTER A WITH STROKE;3T WITH DIAGONAL STROKE;1CAPITAL LETTER H WITH DESCENDER;
1SMALL LETTER H WITH DESCENDER;1CAPITAL LETTER K WITH DESCENDER;1SMALL LETTER K WITH DESCENDER;
1CAPITAL LETTER Z WITH DESCENDER;1SMALL LETTER Z WITH DESCENDER;1CAPITAL LETTER ALPHA;3M WITH HOOK;
3TURNED A;4ALPHA;1SMALL LETTER V WITH RIGHT HOOK;1CAPITAL LETTER W WITH HOOK;
1SMALL LETTER W WITH HOOK;3V WITH CURL;1CAPITAL LETTER HALF H;1SMALL LETTER HALF H;3TAILLESS PHI;
3E WITH NOTCH;3TURNED R WITH TAIL;3O WITH LOW RING INSIDE;1LETTER SMALL CAPITAL TURNED E;
1SUBSCRIPT SMALL LETTER J;0MODIFIER LETTER CAPITAL V;0LATIN CAPITAL LETTER S WITH SWASH TAIL;
3Z WITH SWASH TAIL;0COPTIC CAPITAL LETTER ALFA;1SMALL LETTER ALFA;1CAPITAL LETTER VIDA;
1SMALL LETTER VIDA;1CAPITAL LETTER GAMMA;1SMALL LETTER GAMMA;1CAPITAL LETTER DALDA;
1SMALL LETTER DALDA;1CAPITAL LETTER EIE;1SMALL LETTER EIE;1CAPITAL LETTER SOU;1SMALL LETTER SOU;
1CAPITAL LETTER ZATA;1SMALL LETTER ZATA;1CAPITAL LETTER HATE;1SMALL LETTER HATE;
1CAPITAL LETTER THETHE;1SMALL LETTER THETHE;1CAPITAL LETTER IAUDA;1SMALL LETTER IAUDA;
1CAPITAL LETTER KAPA;1SMALL LETTER KAPA;1CAPITAL LETTER LAULA;1SMALL LETTER LAULA;
1CAPITAL LETTER MI;1SMALL LETTER MI;1CAPITAL LETTER NI;1SMALL LETTER NI;1CAPITAL LETTER KSI;
1SMALL LETTER KSI;1CAPITAL LETTER O;1SMALL LETTER O;1CAPITAL LETTER PI;1SMALL LETTER PI;
1CAPITAL LETTER RO;1SMALL LETTER RO;1CAPITAL LETTER SIMA;1SMALL LETTER SIMA;1CAPITAL LETTER TAU;
1SMALL LETTER TAU;1CAPITAL LETTER UA;1SMALL LETTER UA;1CAPITAL LETTER FI;1SMALL LETTER FI;
1CAPITAL LETTER KHI;1SMALL LETTER KHI;1CAPITAL LETTER PSI;1SMALL LETTER PSI;1CAPITAL LETTER OOU;
1SMALL LETTER OOU;1CAPITAL LETTER DIALECT-P ALEF;1SMALL LETTER DIALECT-P ALEF;
1CAPITAL LETTER OLD COPTIC AIN;1SMALL LETTER OLD COPTIC AIN;1CAPITAL LETTER CRYPTOGRAMMIC EIE;
1SMALL LETTER CRYPTOGRAMMIC EIE;1CAPITAL LETTER DIALECT-P KAPA;1SMALL LETTER DIALECT-P KAPA;
1CAPITAL LETTER DIALECT-P NI;1SMALL LETTER DIALECT-P NI;1CAPITAL LETTER CRYPTOGRAMMIC NI;
1SMALL LETTER CRYPTOGRAMMIC NI;1CAPITAL LETTER OLD COPTIC OOU;1SMALL LETTER OLD COPTIC OOU;
1CAPITAL LETTER SAMPI;1SMALL LETTER SAMPI;1CAPITAL LETTER CROSSED SHEI;1SMALL LETTER CROSSED SHEI;
1CAPITAL LETTER OLD COPTIC SHEI;1SMALL LETTER OLD COPTIC SHEI;1CAPITAL LETTER OLD COPTIC ESH;
1SMALL LETTER OLD COPTIC ESH;1CAPITAL LETTER AKHMIMIC KHEI;1SMALL LETTER AKHMIMIC KHEI;
1CAPITAL LETTER DIALECT-P HORI;1SMALL LETTER DIALECT-P HORI;1CAPITAL LETTER OLD COPTIC HORI;
1SMALL LETTER OLD COPTIC HORI;1CAPITAL LETTER OLD COPTIC HA;1SMALL LETTER OLD COPTIC HA;
1CAPITAL LETTER L-SHAPED HA;1SMALL LETTER L-SHAPED HA;1CAPITAL LETTER OLD COPTIC HEI;
1SMALL LETTER OLD COPTIC HEI;1CAPITAL LETTER OLD COPTIC HAT;1SMALL LETTER OLD COPTIC HAT;
1CAPITAL LETTER OLD COPTIC GANGIA;1SMALL LETTER OLD COPTIC GANGIA;1CAPITAL LETTER OLD COPTIC DJA;
1SMALL LETTER OLD COPTIC DJA;1CAPITAL LETTER OLD COPTIC SHIMA;1SMALL LETTER OLD COPTIC SHIMA;
1CAPITAL LETTER OLD NUBIAN SHIMA;1SMALL LETTER OLD NUBIAN SHIMA;1CAPITAL LETTER OLD NUBIAN NGI;
1SMALL LETTER OLD NUBIAN NGI;1CAPITAL LETTER OLD NUBIAN NYI;1SMALL LETTER OLD NUBIAN NYI;
1CAPITAL LETTER OLD NUBIAN WAU;1SMALL LETTER OLD NUBIAN WAU;1SYMBOL KAI;2MI RO;2PI RO;2STAUROS;
2TAU RO;2KHI RO;2SHIMA SIMA;1CAPITAL LETTER CRYPTOGRAMMIC SHEI;1SMALL LETTER CRYPTOGRAMMIC SHEI;
1CAPITAL LETTER CRYPTOGRAMMIC GANGIA;1SMALL LETTER CRYPTOGRAMMIC GANGIA;1COMBINING NI ABOVE;
2SPIRITUS ASPER;3LENIS;1CAPITAL LETTER BOHAIRIC KHEI;1SMALL LETTER BOHAIRIC KHEI;=2CF9;
1OLD NUBIAN FULL STOP;3DIRECT QUESTION MARK;3INDIRECT QUESTION MARK;3VERSE DIVIDER;
1FRACTION ONE HALF;1FULL STOP;1MORPHOLOGICAL DIVIDER;0GEORGIAN SMALL LETTER AN;3BAN;3GAN;3DON;3EN;
3VIN;3ZEN;3TAN;3IN;3KAN;3LAS;3MAN;3NAR;3ON;3PAR;3ZHAR;3RAE;3SAN;3TAR;3UN;3PHAR;3KHAR;3GHAN;3QAR;
3SHIN;3CHIN;3CAN;3JIL;3CIL;3CHAR;3XAN;3JHAN;3HAE;3HE;3HIE;3WE;3HAR;3HOE;=2D27;3YN;=2D2D;3AEN;=2DE0;
0COMBINING CYRILLIC LETTER BE;3VE;3GHE;3DE;3ZHE;3ZE;3KA;3EL;3EM;3EN;3O;3PE;3ER;3ES;3TE;3HA;3TSE;
3CHE;3SHA;3SHCHA;3FITA;3ES-TE;3A;3IE;3DJERV;3MONOGRAPH UK;3YAT;3YU;3IOTIFIED A;3LITTLE YUS;3BIG YUS;
3IOTIFIED BIG YUS;=A640;0CYRILLIC CAPITAL LETTER ZEMLYA;1SMALL LETTER ZEMLYA;1CAPITAL LETTER DZELO;
1SMALL LETTER DZELO;1CAPITAL LETTER REVERSED DZE;1SMALL LETTER REVERSED DZE;1CAPITAL LETTER IOTA;
1SMALL LETTER IOTA;1CAPITAL LETTER DJERV;1SMALL LETTER DJERV;1CAPITAL LETTER MONOGRAPH UK;
1SMALL LETTER MONOGRAPH UK;1CAPITAL LETTER BROAD OMEGA;1SMALL LETTER BROAD OMEGA;
1CAPITAL LETTER NEUTRAL YER;1SMALL LETTER NEUTRAL YER;1CAPITAL LETTER YERU WITH BACK YER;
1SMALL LETTER YERU WITH BACK YER;1CAPITAL LETTER IOTIFIED YAT;1SMALL LETTER IOTIFIED YAT;
1CAPITAL LETTER REVERSED YU;1SMALL LETTER REVERSED YU;1CAPITAL LETTER IOTIFIED A;
1SMALL LETTER IOTIFIED A;1CAPITAL LETTER CLOSED LITTLE YUS;1SMALL LETTER CLOSED LITTLE YUS;
1CAPITAL LETTER BLENDED YUS;1SMALL LETTER BLENDED YUS;1CAPITAL LETTER IOTIFIED CLOSED LITTLE YUS;
1SMALL LETTER IOTIFIED CLOSED LITTLE YUS;1CAPITAL LETTER YN;1SMALL LETTER YN;
1CAPITAL LETTER REVERSED TSE;1SMALL LETTER REVERSED TSE;1CAPITAL LETTER SOFT DE;
1SMALL LETTER SOFT DE;1CAPITAL LETTER SOFT EL;1SMALL LETTER SOFT EL;1CAPITAL LETTER SOFT EM;
1SMALL LETTER SOFT EM;1CAPITAL LETTER MONOCULAR O;1SMALL LETTER MONOCULAR O;
1CAPITAL LETTER BINOCULAR O;1SMALL LETTER BINOCULAR O;1CAPITAL LETTER DOUBLE MONOCULAR O;
1SMALL LETTER DOUBLE MONOCULAR O;1LETTER MULTIOCULAR O;0COMBINING CYRILLIC VZMET;2TEN MILLIONS SIGN;
2HUNDRED MILLIONS SIGN;2THOUSAND MILLIONS SIGN;0SLAVONIC ASTERISK;
0COMBINING CYRILLIC LETTER UKRAINIAN IE;3I;3YI;3U;3HARD SIGN;3YERU;3SOFT SIGN;3OMEGA;2KAVYKA;
2PAYEROK;0CYRILLIC KAVYKA;1PAYEROK;1CAPITAL LETTER DWE;1SMALL LETTER DWE;1CAPITAL LETTER DZWE;
1SMALL LETTER DZWE;1CAPITAL LETTER ZHWE;1SMALL LETTER ZHWE;1CAPITAL LETTER CCHE;1SMALL LETTER CCHE;
1CAPITAL LETTER DZZE;1SMALL LETTER DZZE;1CAPITAL LETTER TE WITH MIDDLE HOOK;
1SMALL LETTER TE WITH MIDDLE HOOK;1CAPITAL LETTER TWE;1SMALL LETTER TWE;1CAPITAL LETTER TSWE;
1SMALL LETTER TSWE;1CAPITAL LETTER TSSE;1SMALL LETTER TSSE;1CAPITAL LETTER TCHE;1SMALL LETTER TCHE;
1CAPITAL LETTER HWE;1SMALL LETTER HWE;1CAPITAL LETTER SHWE;1SMALL LETTER SHWE;
1CAPITAL LETTER DOUBLE O;1SMALL LETTER DOUBLE O;1CAPITAL LETTER CROSSED O;1SMALL LETTER CROSSED O;
0MODIFIER LETTER CYRILLIC HARD SIGN;3SOFT SIGN;0COMBINING CYRILLIC LETTER EF;3IOTIFIED E;=A700;
0MODIFIER LETTER CHINESE TONE YIN PING;4YANG PING;4YIN SHANG;4YANG SHANG;4YIN QU;4YANG QU;4YIN RU;
4YANG RU;2EXTRA-HIGH DOTTED TONE BAR;2HIGH DOTTED TONE BAR;2MID DOTTED TONE BAR;
2LOW DOTTED TONE BAR;2EXTRA-LOW DOTTED TONE BAR;2EXTRA-HIGH DOTTED LEFT-STEM TONE BAR;
2HIGH DOTTED LEFT-STEM TONE BAR;2MID DOTTED LEFT-STEM TONE BAR;2LOW DOTTED LEFT-STEM TONE BAR;
2EXTRA-LOW DOTTED LEFT-STEM TONE BAR;2EXTRA-HIGH LEFT-STEM TONE BAR;2HIGH LEFT-STEM TONE BAR;
2MID LEFT-STEM TONE BAR;2LOW LEFT-STEM TONE BAR;2EXTRA-LOW LEFT-STEM TONE BAR;2DOT VERTICAL BAR;
3SLASH;3HORIZONTAL BAR;2LOWER RIGHT CORNER ANGLE;2RAISED UP ARROW;3DOWN ARROW;3EXCLAMATION MARK;
3INVERTED EXCLAMATION MARK;2LOW INVERTED EXCLAMATION MARK;2STRESS AND HIGH TONE;4LOW TONE;
0LATIN CAPITAL LETTER EGYPTOLOGICAL ALEF;1SMALL LETTER EGYPTOLOGICAL ALEF;
1CAPITAL LETTER EGYPTOLOGICAL AIN;1SMALL LETTER EGYPTOLOGICAL AIN;1CAPITAL LETTER HENG;
1SMALL LETTER HENG;1CAPITAL LETTER TZ;1SMALL LETTER TZ;1CAPITAL LETTER TRESILLO;
1SMALL LETTER TRESILLO;1CAPITAL LETTER CUATRILLO;1SMALL LETTER CUATRILLO;
1CAPITAL LETTER CUATRILLO WITH COMMA;1SMALL LETTER CUATRILLO WITH COMMA;1LETTER SMALL CAPITAL F;4S;
1CAPITAL LETTER AA;1SMALL LETTER AA;1CAPITAL LETTER AO;1SMALL LETTER AO;1CAPITAL LETTER AU;
1SMALL LETTER AU;1CAPITAL LETTER AV;1SMALL LETTER AV;1CAPITAL LETTER AV WITH HORIZONTAL BAR;
1SMALL LETTER AV WITH HORIZONTAL BAR;1CAPITAL LETTER AY;1SMALL LETTER AY;
1CAPITAL LETTER REVERSED C WITH DOT;1SMALL LETTER REVERSED C WITH DOT;1CAPITAL LETTER K WITH STROKE;
1SMALL LETTER K WITH STROKE;1CAPITAL LETTER K WITH DIAGONAL STROKE;
1SMALL LETTER K WITH DIAGONAL STROKE;1CAPITAL LETTER K WITH STROKE AND DIAGONAL STROKE;
1SMALL LETTER K WITH STROKE AND DIAGONAL STROKE;1CAPITAL LETTER BROKEN L;1SMALL LETTER BROKEN L;
1CAPITAL LETTER L WITH HIGH STROKE;1SMALL LETTER L WITH HIGH STROKE;
1CAPITAL LETTER O WITH LONG STROKE OVERLAY;1SMALL LETTER O WITH LONG STROKE OVERLAY;
1CAPITAL LETTER O WITH LOOP;1SMALL LETTER O WITH LOOP;1CAPITAL LETTER OO;1SMALL LETTER OO;
1CAPITAL LETTER P WITH STROKE THROUGH DESCENDER;1SMALL LETTER P WITH STROKE THROUGH DESCENDER;
1CAPITAL LETTER P WITH FLOURISH;1SMALL LETTER P WITH FLOURISH;1CAPITAL LETTER P WITH SQUIRREL TAIL;
1SMALL LETTER P WITH SQUIRREL TAIL;1CAPITAL LETTER Q WITH STROKE THROUGH DESCENDER;
1SMALL LETTER Q WITH STROKE THROUGH DESCENDER;1CAPITAL LETTER Q WITH DIAGONAL STROKE;
1SMALL LETTER Q WITH DIAGONAL STROKE;1CAPITAL LETTER R ROTUNDA;1SMALL LETTER R ROTUNDA;
1CAPITAL LETTER RUM ROTUNDA;1SMALL LETTER RUM ROTUNDA;1CAPITAL LETTER V WITH DIAGONAL STROKE;
1SMALL LETTER V WITH DIAGONAL STROKE;1CAPITAL LETTER VY;1SMALL LETTER VY;
1CAPITAL LETTER VISIGOTHIC Z;1SMALL LETTER VISIGOTHIC Z;1CAPITAL LETTER THORN WITH STROKE;
1SMALL LETTER THORN WITH STROKE;1CAPITAL LETTER THORN WITH STROKE THROUGH DESCENDER;
1SMALL LETTER THORN WITH STROKE THROUGH DESCENDER;1CAPITAL LETTER VEND;1SMALL LETTER VEND;
1CAPITAL LETTER ET;1SMALL LETTER ET;1CAPITAL LETTER IS;1SMALL LETTER IS;1CAPITAL LETTER CON;
1SMALL LETTER CON;0MODIFIER LETTER US;0LATIN SMALL LETTER DUM;3LUM;3MUM;3NUM;3RUM;
1LETTER SMALL CAPITAL RUM;1SMALL LETTER TUM;3UM;1CAPITAL LETTER INSULAR D;1SMALL LETTER INSULAR D;
1CAPITAL LETTER INSULAR F;1SMALL LETTER INSULAR F;1CAPITAL LETTER INSULAR G;3TURNED INSULAR G;
1SMALL LETTER TURNED INSULAR G;1CAPITAL LETTER TURNED L;1SMALL LETTER TURNED L;
1CAPITAL LETTER INSULAR R;1SMALL LETTER INSULAR R;1CAPITAL LETTER INSULAR S;1SMALL LETTER INSULAR S;
1CAPITAL LETTER INSULAR T;1SMALL LETTER INSULAR T;0MODIFIER LETTER LOW CIRCUMFLEX ACCENT;2COLON;
2SHORT EQUALS SIGN;0LATIN CAPITAL LETTER SALTILLO;1SMALL LETTER SALTILLO;1CAPITAL LETTER TURNED H;
1SMALL LETTER L WITH RETROFLEX HOOK AND BELT;1LETTER SINOLOGICAL DOT;
1CAPITAL LETTER N WITH DESCENDER;1SMALL LETTER N WITH DESCENDER;1CAPITAL LETTER C WITH BAR;
1SMALL LETTER C WITH BAR;5PALATAL HOOK;3H WITH PALATAL HOOK;1CAPITAL LETTER B WITH FLOURISH;
1SMALL LETTER B WITH FLOURISH;1CAPITAL LETTER F WITH STROKE;1SMALL LETTER F WITH STROKE;
1CAPITAL LETTER VOLAPUK AE;1SMALL LETTER VOLAPUK AE;1CAPITAL LETTER VOLAPUK OE;
1SMALL LETTER VOLAPUK OE;1CAPITAL LETTER VOLAPUK UE;1SMALL LETTER VOLAPUK UE;
1CAPITAL LETTER G WITH OBLIQUE STROKE;1SMALL LETTER G WITH OBLIQUE STROKE;
1CAPITAL LETTER K WITH OBLIQUE STROKE;1SMALL LETTER K WITH OBLIQUE STROKE;
1CAPITAL LETTER N WITH OBLIQUE STROKE;1SMALL LETTER N WITH OBLIQUE STROKE;
1CAPITAL LETTER R WITH OBLIQUE STROKE;1SMALL LETTER R WITH OBLIQUE STROKE;
1CAPITAL LETTER S WITH OBLIQUE STROKE;1SMALL LETTER S WITH OBLIQUE STROKE;
1CAPITAL LETTER H WITH HOOK;3REVERSED OPEN E;3SCRIPT G;3L WITH BELT;3SMALL CAPITAL I;
1LETTER SMALL CAPITAL Q;1CAPITAL LETTER TURNED K;4T;3J WITH CROSSED-TAIL;3CHI;3BETA;
1SMALL LETTER BETA;1CAPITAL LETTER OMEGA;1SMALL LETTER OMEGA;1CAPITAL LETTER U WITH STROKE;
1SMALL LETTER U WITH STROKE;1CAPITAL LETTER GLOTTAL A;1SMALL LETTER GLOTTAL A;
1CAPITAL LETTER GLOTTAL I;1SMALL LETTER GLOTTAL I;1CAPITAL LETTER GLOTTAL U;1SMALL LETTER GLOTTAL U;
1CAPITAL LETTER OLD POLISH O;1SMALL LETTER OLD POLISH O;1CAPITAL LETTER ANGLICANA W;
1SMALL LETTER ANGLICANA W;1CAPITAL LETTER C WITH PALATAL HOOK;3S WITH HOOK;3Z WITH PALATAL HOOK;
3D WITH SHORT STROKE OVERLAY;1SMALL LETTER D WITH SHORT STROKE OVERLAY;
1CAPITAL LETTER S WITH SHORT STROKE OVERLAY;1SMALL LETTER S WITH SHORT STROKE OVERLAY;=A7D0;
1CAPITAL LETTER CLOSED INSULAR G;1SMALL LETTER CLOSED INSULAR G;=A7D3;3DOUBLE THORN;=A7D5;4WYNN;
1CAPITAL LETTER MIDDLE SCOTS S;1SMALL LETTER MIDDLE SCOTS S;1CAPITAL LETTER SIGMOID S;
1SMALL LETTER SIGMOID S;=A7F2;0MODIFIER LETTER CAPITAL C;3F;3Q;
0LATIN CAPITAL LETTER REVERSED HALF H;1SMALL LETTER REVERSED HALF H;1EPIGRAPHIC LETTER SIDEWAYS I;
0MODIFIER LETTER CAPITAL H WITH STROKE;2SMALL LIGATURE OE;0LATIN LETTER SMALL CAPITAL TURNED M;
1EPIGRAPHIC LETTER REVERSED F;4P;3INVERTED M;3I LONGA;3ARCHAIC M;=AB30;1SMALL LETTER BARRED ALPHA;
3A REVERSED-SCHWA;3BLACKLETTER E;3BARRED E;3E WITH FLOURISH;3LENIS F;3SCRIPT G WITH CROSSED-TAIL;
3L WITH INVERTED LAZY S;5DOUBLE MIDDLE TILDE;5MIDDLE RING;3M WITH CROSSED-TAIL;3N WITH CROSSED-TAIL;
3ENG WITH CROSSED-TAIL;3BLACKLETTER O;5WITH STROKE;3OPEN O WITH STROKE;3INVERTED OE;
3TURNED OE WITH STROKE;6HORIZONTAL STROKE;4O OPEN-O;6WITH STROKE;3STIRRUP R;
1LETTER SMALL CAPITAL R WITH RIGHT LEG;1SMALL LETTER R WITHOUT HANDLE;3DOUBLE R;
3R WITH CROSSED-TAIL;3DOUBLE R WITH CROSSED-TAIL;3SCRIPT R;5WITH RING;3BASELINE ESH;
3U WITH SHORT RIGHT LEG;4BAR WITH SHORT RIGHT LEG;3UI;3TURNED UI;3U WITH LEFT HOOK;3CHI;
4WITH LOW RIGHT RING;6LEFT SERIF;3X WITH LOW RIGHT RING;5LONG LEFT LEG;8AND LOW RIGHT RING;
8WITH SERIF;3Y WITH SHORT RIGHT LEG;0MODIFIER BREVE WITH INVERTED BREVE;1LETTER SMALL HENG;
3L WITH INVERTED LAZY S;5MIDDLE TILDE;3U WITH LEFT HOOK;0LATIN SMALL LETTER SAKHA YAT;3IOTIFIED E;
3OPEN OE;3UO;3INVERTED ALPHA;0GREEK LETTER SMALL CAPITAL OMEGA;
0LATIN SMALL LETTER DZ DIGRAPH WITH RETROFLEX HOOK;3TS DIGRAPH WITH RETROFLEX HOOK;
3TURNED R WITH MIDDLE TILDE;0MODIFIER LETTER SMALL TURNED W;2LEFT TACK;2RIGHT TACK;=FB00;
0LATIN SMALL LIGATURE FF;3FI;3FL;3FFI;3FFL;3LONG S T;3ST;=FB13;0ARMENIAN SMALL LIGATURE MEN NOW;
4ECH;4INI;3VEW NOW;3MEN XEH;=10780;0MODIFIER LETTER SMALL CAPITAL AA;2SUPERSCRIPT TRIANGULAR COLON;
3HALF TRIANGULAR COLON;2SMALL AE;3CAPITAL B;3B WITH HOOK;=10787;3DZ DIGRAPH;5WITH RETROFLEX HOOK;
6CURL;3DEZH DIGRAPH;3D WITH TAIL;5HOOK;6AND TAIL;3REVERSED E;3CLOSED REVERSED OPEN E;3FENG DIGRAPH;
3RAMS HORN;3CAPITAL G;3G WITH HOOK;3CAPITAL G WITH HOOK;3H WITH STROKE;3CAPITAL H;3HENG WITH HOOK;
3DOTLESS J WITH STROKE AND HOOK;3LS DIGRAPH;3LZ DIGRAPH;3L WITH BELT;3CAPITAL L WITH BELT;
3L WITH RETROFLEX HOOK AND BELT;3LEZH;4WITH RETROFLEX HOOK;3TURNED Y;5WITH BELT;3O WITH STROKE;
3CAPITAL OE;3CLOSED OMEGA;3Q;3TURNED R WITH LONG LEG;8AND RETROFLEX HOOK;3R WITH TAIL;5FISHHOOK;
3CAPITAL R;3TC DIGRAPH WITH CURL;3TS DIGRAPH;5WITH RETROFLEX HOOK;3TESH DIGRAPH;
3T WITH RETROFLEX HOOK;3V WITH RIGHT HOOK;=107B2;3CAPITAL Y;2GLOTTAL STOP WITH STROKE;
2REVERSED GLOTTAL STOP WITH STROKE;2BILABIAL CLICK;2DENTAL CLICK;2LATERAL CLICK;2ALVEOLAR CLICK;
2RETROFLEX CLICK WITH RETROFLEX HOOK;2SMALL S WITH CURL;=1DF00;
0LATIN SMALL LETTER FENG DIGRAPH WITH TRILL;3REVERSED SCRIPT G;1LETTER SMALL CAPITAL TURNED G;
1SMALL LETTER REVERSED K;1LETTER SMALL CAPITAL L WITH BELT;1SMALL LETTER LEZH WITH RETROFLEX HOOK;
3TURNED Y WITH BELT;3REVERSED ENG;3TURNED R WITH LONG LEG AND RETROFLEX HOOK;
3T WITH HOOK AND RETROFLEX HOOK;1LETTER RETROFLEX CLICK WITH RETROFLEX HOOK;
1SMALL LETTER ESH WITH DOUBLE BAR;7AND CURL;3TURNED T WITH CURL;
1LETTER INVERTED GLOTTAL STOP WITH CURL;2STRETCHED C WITH CURL;2SMALL CAPITAL TURNED K;
1SMALL LETTER L WITH FISHHOOK;3DEZH DIGRAPH WITH PALATAL HOOK;3L WITH BELT AND PALATAL HOOK;
3ENG WITH PALATAL HOOK;3TURNED R WITH PALATAL HOOK;3R WITH FISHHOOK AND PALATAL HOOK;
3TESH DIGRAPH WITH PALATAL HOOK;3EZH WITH PALATAL HOOK;3DEZH DIGRAPH WITH RETROFLEX HOOK;
3I WITH STROKE AND RETROFLEX HOOK;3O WITH RETROFLEX HOOK;3TESH DIGRAPH WITH RETROFLEX HOOK;
3C WITH RETROFLEX HOOK;3S WITH CURL;=1E000;0COMBINING GLAGOLITIC LETTER AZU;3BUKY;3VEDE;3GLAGOLI;
3DOBRO;3YESTU;3ZHIVETE;=1E008;3ZEMLJA;3IZHE;3INITIAL IZHE;3I;3DJERVI;3KAKO;3LJUDIJE;3MYSLITE;3NASHI;
3ONU;3POKOJI;3RITSI;3SLOVO;3TVRIDO;3UKU;3FRITU;3HERU;=1E01B;3SHTA;3TSI;3CHRIVI;3SHA;3YERU;3YERI;
3YATI;=1E023;3YU;3SMALL YUS;=1E026;3YO;3IOTATED SMALL YUS;3BIG YUS;3IOTATED BIG YUS;3FITA;"

end ServiceManifest.Text
