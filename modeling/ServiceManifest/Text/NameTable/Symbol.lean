/-!
# Names of characters: symbols

The tables are written as `ServiceManifest.Text.listedCode?` reads them.
-/

namespace ServiceManifest.Text

/-- Names of punctuation, of symbols and of characters that control how others are shown. -/
def symbolNames : String := "
=2000;0EN QUAD;0EM QUAD;0EN SPACE;0EM SPACE;0THREE-PER-EM SPACE;0FOUR-PER-EM SPACE;
0SIX-PER-EM SPACE;0FIGURE SPACE;0PUNCTUATION SPACE;0THIN SPACE;0HAIR SPACE;0ZERO WIDTH SPACE;
2NON-JOINER;2JOINER;0LEFT-TO-RIGHT MARK;0RIGHT-TO-LEFT MARK;0HYPHEN;0NON-BREAKING HYPHEN;
0FIGURE DASH;0EN DASH;0EM DASH;0HORIZONTAL BAR;0DOUBLE VERTICAL LINE;1LOW LINE;
0LEFT SINGLE QUOTATION MARK;0RIGHT SINGLE QUOTATION MARK;0SINGLE LOW-9 QUOTATION MARK;
1HIGH-REVERSED-9 QUOTATION MARK;0LEFT DOUBLE QUOTATION MARK;0RIGHT DOUBLE QUOTATION MARK;
0DOUBLE LOW-9 QUOTATION MARK;1HIGH-REVERSED-9 QUOTATION MARK;0DAGGER;0DOUBLE DAGGER;0BULLET;
0TRIANGULAR BULLET;0ONE DOT LEADER;0TWO DOT LEADER;0HORIZONTAL ELLIPSIS;0HYPHENATION POINT;
0LINE SEPARATOR;0PARAGRAPH SEPARATOR;0LEFT-TO-RIGHT EMBEDDING;0RIGHT-TO-LEFT EMBEDDING;
0POP DIRECTIONAL FORMATTING;0LEFT-TO-RIGHT OVERRIDE;0RIGHT-TO-LEFT OVERRIDE;0NARROW NO-BREAK SPACE;
0PER MILLE SIGN;1TEN THOUSAND SIGN;0PRIME;0DOUBLE PRIME;0TRIPLE PRIME;0REVERSED PRIME;1DOUBLE PRIME;
1TRIPLE PRIME;0CARET;0SINGLE LEFT-POINTING ANGLE QUOTATION MARK;
1RIGHT-POINTING ANGLE QUOTATION MARK;0REFERENCE MARK;0DOUBLE EXCLAMATION MARK;0INTERROBANG;
0OVERLINE;0UNDERTIE;0CHARACTER TIE;0CARET INSERTION POINT;0ASTERISM;0HYPHEN BULLET;0FRACTION SLASH;
0LEFT SQUARE BRACKET WITH QUILL;0RIGHT SQUARE BRACKET WITH QUILL;0DOUBLE QUESTION MARK;
0QUESTION EXCLAMATION MARK;0EXCLAMATION QUESTION MARK;0TIRONIAN SIGN ET;0REVERSED PILCROW SIGN;
0BLACK LEFTWARDS BULLET;1RIGHTWARDS BULLET;0LOW ASTERISK;0REVERSED SEMICOLON;0CLOSE UP;
0TWO ASTERISKS ALIGNED VERTICALLY;0COMMERCIAL MINUS SIGN;0SWUNG DASH;0INVERTED UNDERTIE;
0FLOWER PUNCTUATION MARK;0THREE DOT PUNCTUATION;0QUADRUPLE PRIME;0FOUR DOT PUNCTUATION;
0FIVE DOT PUNCTUATION;0TWO DOT PUNCTUATION;0FOUR DOT MARK;0DOTTED CROSS;0TRICOLON;
0VERTICAL FOUR DOTS;0MEDIUM MATHEMATICAL SPACE;0WORD JOINER;0FUNCTION APPLICATION;0INVISIBLE TIMES;
1SEPARATOR;1PLUS;=2066;0LEFT-TO-RIGHT ISOLATE;0RIGHT-TO-LEFT ISOLATE;0FIRST STRONG ISOLATE;
0POP DIRECTIONAL ISOLATE;0INHIBIT SYMMETRIC SWAPPING;0ACTIVATE SYMMETRIC SWAPPING;
0INHIBIT ARABIC FORM SHAPING;0ACTIVATE ARABIC FORM SHAPING;0NATIONAL DIGIT SHAPES;
0NOMINAL DIGIT SHAPES;0SUPERSCRIPT ZERO;1LATIN SMALL LETTER I;=2074;1FOUR;1FIVE;1SIX;1SEVEN;1EIGHT;
1NINE;1PLUS SIGN;1MINUS;1EQUALS SIGN;1LEFT PARENTHESIS;1RIGHT PARENTHESIS;1LATIN SMALL LETTER N;
0SUBSCRIPT ZERO;1ONE;1TWO;1THREE;1FOUR;1FIVE;1SIX;1SEVEN;1EIGHT;1NINE;1PLUS SIGN;1MINUS;
1EQUALS SIGN;1LEFT PARENTHESIS;1RIGHT PARENTHESIS;=2090;0LATIN SUBSCRIPT SMALL LETTER A;4E;4O;4X;
4SCHWA;4H;4K;4L;4M;4N;4P;4S;4T;=20A0;0EURO-CURRENCY SIGN;0COLON SIGN;0CRUZEIRO SIGN;
0FRENCH FRANC SIGN;0LIRA SIGN;0MILL SIGN;0NAIRA SIGN;0PESETA SIGN;0RUPEE SIGN;0WON SIGN;
0NEW SHEQEL SIGN;0DONG SIGN;0EURO SIGN;0KIP SIGN;0TUGRIK SIGN;0DRACHMA SIGN;0GERMAN PENNY SIGN;
0PESO SIGN;0GUARANI SIGN;0AUSTRAL SIGN;0HRYVNIA SIGN;0CEDI SIGN;0LIVRE TOURNOIS SIGN;0SPESMILO SIGN;
0TENGE SIGN;0INDIAN RUPEE SIGN;0TURKISH LIRA SIGN;0NORDIC MARK SIGN;0MANAT SIGN;0RUBLE SIGN;
0LARI SIGN;0BITCOIN SIGN;0SOM SIGN;=20D0;0COMBINING LEFT HARPOON ABOVE;1RIGHT HARPOON ABOVE;
1LONG VERTICAL LINE OVERLAY;1SHORT VERTICAL LINE OVERLAY;1ANTICLOCKWISE ARROW ABOVE;
1CLOCKWISE ARROW ABOVE;1LEFT ARROW ABOVE;1RIGHT ARROW ABOVE;1RING OVERLAY;1CLOCKWISE RING OVERLAY;
1ANTICLOCKWISE RING OVERLAY;1THREE DOTS ABOVE;1FOUR DOTS ABOVE;1ENCLOSING CIRCLE;2SQUARE;2DIAMOND;
2CIRCLE BACKSLASH;1LEFT RIGHT ARROW ABOVE;1ENCLOSING SCREEN;2KEYCAP;2UPWARD POINTING TRIANGLE;
1REVERSE SOLIDUS OVERLAY;1DOUBLE VERTICAL STROKE OVERLAY;1ANNUITY SYMBOL;1TRIPLE UNDERDOT;
1WIDE BRIDGE ABOVE;1LEFTWARDS ARROW OVERLAY;1LONG DOUBLE SOLIDUS OVERLAY;
1RIGHTWARDS HARPOON WITH BARB DOWNWARDS;1LEFTWARDS HARPOON WITH BARB DOWNWARDS;1LEFT ARROW BELOW;
1RIGHT ARROW BELOW;1ASTERISK ABOVE;=2100;0ACCOUNT OF;0ADDRESSED TO THE SUBJECT;
0DOUBLE-STRUCK CAPITAL C;0DEGREE CELSIUS;0CENTRE LINE SYMBOL;0CARE OF;0CADA UNA;0EULER CONSTANT;
0SCRUPLE;0DEGREE FAHRENHEIT;0SCRIPT SMALL G;1CAPITAL H;0BLACK-LETTER CAPITAL H;
0DOUBLE-STRUCK CAPITAL H;0PLANCK CONSTANT;2OVER TWO PI;0SCRIPT CAPITAL I;0BLACK-LETTER CAPITAL I;
0SCRIPT CAPITAL L;1SMALL L;0L B BAR SYMBOL;0DOUBLE-STRUCK CAPITAL N;0NUMERO SIGN;
0SOUND RECORDING COPYRIGHT;0SCRIPT CAPITAL P;0DOUBLE-STRUCK CAPITAL P;2Q;0SCRIPT CAPITAL R;
0BLACK-LETTER CAPITAL R;0DOUBLE-STRUCK CAPITAL R;0PRESCRIPTION TAKE;0RESPONSE;0SERVICE MARK;
0TELEPHONE SIGN;0TRADE MARK SIGN;0VERSICLE;0DOUBLE-STRUCK CAPITAL Z;0OUNCE SIGN;0OHM SIGN;
0INVERTED OHM SIGN;0BLACK-LETTER CAPITAL Z;0TURNED GREEK SMALL LETTER IOTA;0KELVIN SIGN;
0ANGSTROM SIGN;0SCRIPT CAPITAL B;0BLACK-LETTER CAPITAL C;0ESTIMATED SYMBOL;0SCRIPT SMALL E;
1CAPITAL E;2F;0TURNED CAPITAL F;0SCRIPT CAPITAL M;1SMALL O;0ALEF SYMBOL;0BET SYMBOL;0GIMEL SYMBOL;
0DALET SYMBOL;0INFORMATION SOURCE;0ROTATED CAPITAL Q;0FACSIMILE SIGN;0DOUBLE-STRUCK SMALL PI;2GAMMA;
1CAPITAL GAMMA;2PI;1N-ARY SUMMATION;0TURNED SANS-SERIF CAPITAL G;3L;0REVERSED SANS-SERIF CAPITAL L;
0TURNED SANS-SERIF CAPITAL Y;0DOUBLE-STRUCK ITALIC CAPITAL D;2SMALL D;3E;3I;3J;0PROPERTY LINE;
0TURNED AMPERSAND;0PER SIGN;0AKTIESELSKAB;0TURNED SMALL F;0SYMBOL FOR SAMARITAN SOURCE;
0VULGAR FRACTION ONE SEVENTH;3NINTH;3TENTH;3THIRD;2TWO THIRDS;2ONE FIFTH;2TWO FIFTHS;2THREE FIFTHS;
2FOUR FIFTHS;2ONE SIXTH;2FIVE SIXTHS;2ONE EIGHTH;2THREE EIGHTHS;2FIVE EIGHTHS;2SEVEN EIGHTHS;
0FRACTION NUMERATOR ONE;0ROMAN NUMERAL ONE;2TWO;2THREE;2FOUR;2FIVE;2SIX;2SEVEN;2EIGHT;2NINE;2TEN;
2ELEVEN;2TWELVE;2FIFTY;2ONE HUNDRED;2FIVE HUNDRED;2ONE THOUSAND;0SMALL ROMAN NUMERAL ONE;3TWO;
3THREE;3FOUR;3FIVE;3SIX;3SEVEN;3EIGHT;3NINE;3TEN;3ELEVEN;3TWELVE;3FIFTY;3ONE HUNDRED;3FIVE HUNDRED;
3ONE THOUSAND;0ROMAN NUMERAL ONE THOUSAND C D;2FIVE THOUSAND;2TEN THOUSAND;2REVERSED ONE HUNDRED;
0LATIN SMALL LETTER REVERSED C;0ROMAN NUMERAL SIX LATE FORM;2FIFTY EARLY FORM;3THOUSAND;
2ONE HUNDRED THOUSAND;0VULGAR FRACTION ZERO THIRDS;0TURNED DIGIT TWO;2THREE;=2190;0LEFTWARDS ARROW;
0UPWARDS ARROW;0RIGHTWARDS ARROW;0DOWNWARDS ARROW;0LEFT RIGHT ARROW;0UP DOWN ARROW;
0NORTH WEST ARROW;1EAST ARROW;0SOUTH EAST ARROW;1WEST ARROW;0LEFTWARDS ARROW WITH STROKE;
0RIGHTWARDS ARROW WITH STROKE;0LEFTWARDS WAVE ARROW;0RIGHTWARDS WAVE ARROW;
0LEFTWARDS TWO HEADED ARROW;0UPWARDS TWO HEADED ARROW;0RIGHTWARDS TWO HEADED ARROW;
0DOWNWARDS TWO HEADED ARROW;0LEFTWARDS ARROW WITH TAIL;0RIGHTWARDS ARROW WITH TAIL;
0LEFTWARDS ARROW FROM BAR;0UPWARDS ARROW FROM BAR;0RIGHTWARDS ARROW FROM BAR;
0DOWNWARDS ARROW FROM BAR;0UP DOWN ARROW WITH BASE;0LEFTWARDS ARROW WITH HOOK;
0RIGHTWARDS ARROW WITH HOOK;0LEFTWARDS ARROW WITH LOOP;0RIGHTWARDS ARROW WITH LOOP;
0LEFT RIGHT WAVE ARROW;2ARROW WITH STROKE;0DOWNWARDS ZIGZAG ARROW;0UPWARDS ARROW WITH TIP LEFTWARDS;
4RIGHTWARDS;0DOWNWARDS ARROW WITH TIP LEFTWARDS;4RIGHTWARDS;0RIGHTWARDS ARROW WITH CORNER DOWNWARDS;
0DOWNWARDS ARROW WITH CORNER LEFTWARDS;0ANTICLOCKWISE TOP SEMICIRCLE ARROW;
0CLOCKWISE TOP SEMICIRCLE ARROW;0NORTH WEST ARROW TO LONG BAR;
0LEFTWARDS ARROW TO BAR OVER RIGHTWARDS ARROW TO BAR;0ANTICLOCKWISE OPEN CIRCLE ARROW;
0CLOCKWISE OPEN CIRCLE ARROW;0LEFTWARDS HARPOON WITH BARB UPWARDS;4DOWNWARDS;
0UPWARDS HARPOON WITH BARB RIGHTWARDS;4LEFTWARDS;0RIGHTWARDS HARPOON WITH BARB UPWARDS;4DOWNWARDS;
0DOWNWARDS HARPOON WITH BARB RIGHTWARDS;4LEFTWARDS;0RIGHTWARDS ARROW OVER LEFTWARDS ARROW;
0UPWARDS ARROW LEFTWARDS OF DOWNWARDS ARROW;0LEFTWARDS ARROW OVER RIGHTWARDS ARROW;1PAIRED ARROWS;
0UPWARDS PAIRED ARROWS;0RIGHTWARDS PAIRED ARROWS;0DOWNWARDS PAIRED ARROWS;
0LEFTWARDS HARPOON OVER RIGHTWARDS HARPOON;0RIGHTWARDS HARPOON OVER LEFTWARDS HARPOON;
0LEFTWARDS DOUBLE ARROW WITH STROKE;0LEFT RIGHT DOUBLE ARROW WITH STROKE;
0RIGHTWARDS DOUBLE ARROW WITH STROKE;0LEFTWARDS DOUBLE ARROW;0UPWARDS DOUBLE ARROW;
0RIGHTWARDS DOUBLE ARROW;0DOWNWARDS DOUBLE ARROW;0LEFT RIGHT DOUBLE ARROW;0UP DOWN DOUBLE ARROW;
0NORTH WEST DOUBLE ARROW;1EAST DOUBLE ARROW;0SOUTH EAST DOUBLE ARROW;1WEST DOUBLE ARROW;
0LEFTWARDS TRIPLE ARROW;0RIGHTWARDS TRIPLE ARROW;0LEFTWARDS SQUIGGLE ARROW;
0RIGHTWARDS SQUIGGLE ARROW;0UPWARDS ARROW WITH DOUBLE STROKE;0DOWNWARDS ARROW WITH DOUBLE STROKE;
0LEFTWARDS DASHED ARROW;0UPWARDS DASHED ARROW;0RIGHTWARDS DASHED ARROW;0DOWNWARDS DASHED ARROW;
0LEFTWARDS ARROW TO BAR;0RIGHTWARDS ARROW TO BAR;0LEFTWARDS WHITE ARROW;0UPWARDS WHITE ARROW;
0RIGHTWARDS WHITE ARROW;0DOWNWARDS WHITE ARROW;0UPWARDS WHITE ARROW FROM BAR;3ON PEDESTAL;
5WITH HORIZONTAL BAR;6VERTICAL BAR;2DOUBLE ARROW;4ON PEDESTAL;0RIGHTWARDS WHITE ARROW FROM WALL;
0NORTH WEST ARROW TO CORNER;0SOUTH EAST ARROW TO CORNER;0UP DOWN WHITE ARROW;
0RIGHT ARROW WITH SMALL CIRCLE;0DOWNWARDS ARROW LEFTWARDS OF UPWARDS ARROW;0THREE RIGHTWARDS ARROWS;
0LEFTWARDS ARROW WITH VERTICAL STROKE;0RIGHTWARDS ARROW WITH VERTICAL STROKE;
0LEFT RIGHT ARROW WITH VERTICAL STROKE;0LEFTWARDS ARROW WITH DOUBLE VERTICAL STROKE;
0RIGHTWARDS ARROW WITH DOUBLE VERTICAL STROKE;0LEFT RIGHT ARROW WITH DOUBLE VERTICAL STROKE;
0LEFTWARDS OPEN-HEADED ARROW;0RIGHTWARDS OPEN-HEADED ARROW;0LEFT RIGHT OPEN-HEADED ARROW;0FOR ALL;
0COMPLEMENT;0PARTIAL DIFFERENTIAL;0THERE EXISTS;1DOES NOT EXIST;0EMPTY SET;0INCREMENT;0NABLA;
0ELEMENT OF;0NOT AN ELEMENT OF;0SMALL ELEMENT OF;0CONTAINS AS MEMBER;0DOES NOT CONTAIN AS MEMBER;
0SMALL CONTAINS AS MEMBER;0END OF PROOF;0N-ARY PRODUCT;1COPRODUCT;1SUMMATION;0MINUS SIGN;
0MINUS-OR-PLUS SIGN;0DOT PLUS;0DIVISION SLASH;0SET MINUS;0ASTERISK OPERATOR;0RING OPERATOR;
0BULLET OPERATOR;0SQUARE ROOT;0CUBE ROOT;0FOURTH ROOT;0PROPORTIONAL TO;0INFINITY;0RIGHT ANGLE;
0ANGLE;0MEASURED ANGLE;0SPHERICAL ANGLE;0DIVIDES;0DOES NOT DIVIDE;0PARALLEL TO;0NOT PARALLEL TO;
0LOGICAL AND;1OR;0INTERSECTION;0UNION;0INTEGRAL;0DOUBLE INTEGRAL;0TRIPLE INTEGRAL;0CONTOUR INTEGRAL;
0SURFACE INTEGRAL;0VOLUME INTEGRAL;0CLOCKWISE INTEGRAL;1CONTOUR INTEGRAL;
0ANTICLOCKWISE CONTOUR INTEGRAL;0THEREFORE;0BECAUSE;0RATIO;0PROPORTION;0DOT MINUS;0EXCESS;
0GEOMETRIC PROPORTION;0HOMOTHETIC;0TILDE OPERATOR;0REVERSED TILDE;0INVERTED LAZY S;0SINE WAVE;
0WREATH PRODUCT;0NOT TILDE;0MINUS TILDE;0ASYMPTOTICALLY EQUAL TO;0NOT ASYMPTOTICALLY EQUAL TO;
0APPROXIMATELY EQUAL TO;1BUT NOT ACTUALLY EQUAL TO;0NEITHER APPROXIMATELY NOR ACTUALLY EQUAL TO;
0ALMOST EQUAL TO;0NOT ALMOST EQUAL TO;0ALMOST EQUAL OR EQUAL TO;0TRIPLE TILDE;0ALL EQUAL TO;
0EQUIVALENT TO;0GEOMETRICALLY EQUIVALENT TO;0DIFFERENCE BETWEEN;0APPROACHES THE LIMIT;
0GEOMETRICALLY EQUAL TO;0APPROXIMATELY EQUAL TO OR THE IMAGE OF;0IMAGE OF OR APPROXIMATELY EQUAL TO;
0COLON EQUALS;0EQUALS COLON;0RING IN EQUAL TO;1EQUAL TO;0CORRESPONDS TO;0ESTIMATES;0EQUIANGULAR TO;
0STAR EQUALS;0DELTA EQUAL TO;0EQUAL TO BY DEFINITION;0MEASURED BY;0QUESTIONED EQUAL TO;
0NOT EQUAL TO;0IDENTICAL TO;0NOT IDENTICAL TO;0STRICTLY EQUIVALENT TO;0LESS-THAN OR EQUAL TO;
0GREATER-THAN OR EQUAL TO;0LESS-THAN OVER EQUAL TO;0GREATER-THAN OVER EQUAL TO;
0LESS-THAN BUT NOT EQUAL TO;0GREATER-THAN BUT NOT EQUAL TO;0MUCH LESS-THAN;1GREATER-THAN;0BETWEEN;
0NOT EQUIVALENT TO;1LESS-THAN;1GREATER-THAN;0NEITHER LESS-THAN NOR EQUAL TO;
1GREATER-THAN NOR EQUAL TO;0LESS-THAN OR EQUIVALENT TO;0GREATER-THAN OR EQUIVALENT TO;
0NEITHER LESS-THAN NOR EQUIVALENT TO;1GREATER-THAN NOR EQUIVALENT TO;0LESS-THAN OR GREATER-THAN;
0GREATER-THAN OR LESS-THAN;0NEITHER LESS-THAN NOR GREATER-THAN;1GREATER-THAN NOR LESS-THAN;
0PRECEDES;0SUCCEEDS;0PRECEDES OR EQUAL TO;0SUCCEEDS OR EQUAL TO;0PRECEDES OR EQUIVALENT TO;
0SUCCEEDS OR EQUIVALENT TO;0DOES NOT PRECEDE;2SUCCEED;0SUBSET OF;0SUPERSET OF;0NOT A SUBSET OF;
2SUPERSET OF;0SUBSET OF OR EQUAL TO;0SUPERSET OF OR EQUAL TO;0NEITHER A SUBSET OF NOR EQUAL TO;
2SUPERSET OF NOR EQUAL TO;0SUBSET OF WITH NOT EQUAL TO;0SUPERSET OF WITH NOT EQUAL TO;0MULTISET;
1MULTIPLICATION;1UNION;0SQUARE IMAGE OF;1ORIGINAL OF;1IMAGE OF OR EQUAL TO;1ORIGINAL OF OR EQUAL TO;
1CAP;1CUP;0CIRCLED PLUS;1MINUS;1TIMES;1DIVISION SLASH;1DOT OPERATOR;1RING OPERATOR;
1ASTERISK OPERATOR;1EQUALS;1DASH;0SQUARED PLUS;1MINUS;1TIMES;1DOT OPERATOR;0RIGHT TACK;0LEFT TACK;
0DOWN TACK;0UP TACK;0ASSERTION;0MODELS;0TRUE;0FORCES;0TRIPLE VERTICAL BAR RIGHT TURNSTILE;
0DOUBLE VERTICAL BAR DOUBLE RIGHT TURNSTILE;0DOES NOT PROVE;0NOT TRUE;0DOES NOT FORCE;
0NEGATED DOUBLE VERTICAL BAR DOUBLE RIGHT TURNSTILE;0PRECEDES UNDER RELATION;
0SUCCEEDS UNDER RELATION;0NORMAL SUBGROUP OF;0CONTAINS AS NORMAL SUBGROUP;
0NORMAL SUBGROUP OF OR EQUAL TO;0CONTAINS AS NORMAL SUBGROUP OR EQUAL TO;0ORIGINAL OF;0IMAGE OF;
0MULTIMAP;0HERMITIAN CONJUGATE MATRIX;0INTERCALATE;0XOR;0NAND;0NOR;0RIGHT ANGLE WITH ARC;1TRIANGLE;
0N-ARY LOGICAL AND;2OR;1INTERSECTION;1UNION;0DIAMOND OPERATOR;0DOT OPERATOR;0STAR OPERATOR;
0DIVISION TIMES;0BOWTIE;0LEFT NORMAL FACTOR SEMIDIRECT PRODUCT;
0RIGHT NORMAL FACTOR SEMIDIRECT PRODUCT;0LEFT SEMIDIRECT PRODUCT;0RIGHT SEMIDIRECT PRODUCT;
0REVERSED TILDE EQUALS;0CURLY LOGICAL OR;2AND;0DOUBLE SUBSET;1SUPERSET;1INTERSECTION;1UNION;
0PITCHFORK;0EQUAL AND PARALLEL TO;0LESS-THAN WITH DOT;0GREATER-THAN WITH DOT;0VERY MUCH LESS-THAN;
2GREATER-THAN;0LESS-THAN EQUAL TO OR GREATER-THAN;0GREATER-THAN EQUAL TO OR LESS-THAN;
0EQUAL TO OR LESS-THAN;3GREATER-THAN;3PRECEDES;3SUCCEEDS;0DOES NOT PRECEDE OR EQUAL;
2SUCCEED OR EQUAL;0NOT SQUARE IMAGE OF OR EQUAL TO;2ORIGINAL OF OR EQUAL TO;
0SQUARE IMAGE OF OR NOT EQUAL TO;1ORIGINAL OF OR NOT EQUAL TO;0LESS-THAN BUT NOT EQUIVALENT TO;
0GREATER-THAN BUT NOT EQUIVALENT TO;0PRECEDES BUT NOT EQUIVALENT TO;0SUCCEEDS BUT NOT EQUIVALENT TO;
0NOT NORMAL SUBGROUP OF;0DOES NOT CONTAIN AS NORMAL SUBGROUP;0NOT NORMAL SUBGROUP OF OR EQUAL TO;
0DOES NOT CONTAIN AS NORMAL SUBGROUP OR EQUAL;0VERTICAL ELLIPSIS;0MIDLINE HORIZONTAL ELLIPSIS;
0UP RIGHT DIAGONAL ELLIPSIS;0DOWN RIGHT DIAGONAL ELLIPSIS;0ELEMENT OF WITH LONG HORIZONTAL STROKE;
3VERTICAL BAR AT END OF HORIZONTAL STROKE;
0SMALL ELEMENT OF WITH VERTICAL BAR AT END OF HORIZONTAL STROKE;0ELEMENT OF WITH DOT ABOVE;3OVERBAR;
0SMALL ELEMENT OF WITH OVERBAR;0ELEMENT OF WITH UNDERBAR;3TWO HORIZONTAL STROKES;
0CONTAINS WITH LONG HORIZONTAL STROKE;2VERTICAL BAR AT END OF HORIZONTAL STROKE;
0SMALL CONTAINS WITH VERTICAL BAR AT END OF HORIZONTAL STROKE;0CONTAINS WITH OVERBAR;
0SMALL CONTAINS WITH OVERBAR;0Z NOTATION BAG MEMBERSHIP;0DIAMETER SIGN;0ELECTRIC ARROW;0HOUSE;
0UP ARROWHEAD;0DOWN ARROWHEAD;0PROJECTIVE;0PERSPECTIVE;0WAVY LINE;0LEFT CEILING;0RIGHT CEILING;
0LEFT FLOOR;0RIGHT FLOOR;0BOTTOM RIGHT CROP;1LEFT CROP;0TOP RIGHT CROP;1LEFT CROP;
0REVERSED NOT SIGN;0SQUARE LOZENGE;0ARC;0SEGMENT;0SECTOR;0TELEPHONE RECORDER;0POSITION INDICATOR;
0VIEWDATA SQUARE;0PLACE OF INTEREST SIGN;0TURNED NOT SIGN;0WATCH;0HOURGLASS;0TOP LEFT CORNER;
1RIGHT CORNER;0BOTTOM LEFT CORNER;1RIGHT CORNER;0TOP HALF INTEGRAL;0BOTTOM HALF INTEGRAL;0FROWN;
0SMILE;0UP ARROWHEAD BETWEEN TWO HORIZONTAL BARS;0OPTION KEY;0ERASE TO THE RIGHT;
0X IN A RECTANGLE BOX;0KEYBOARD;0LEFT-POINTING ANGLE BRACKET;0RIGHT-POINTING ANGLE BRACKET;
0ERASE TO THE LEFT;0BENZENE RING;0CYLINDRICITY;0ALL AROUND-PROFILE;0SYMMETRY;0TOTAL RUNOUT;
0DIMENSION ORIGIN;0CONICAL TAPER;0SLOPE;0COUNTERBORE;0COUNTERSINK;0APL FUNCTIONAL SYMBOL I-BEAM;
3SQUISH QUAD;3QUAD EQUAL;4DIVIDE;4DIAMOND;4JOT;4CIRCLE;3CIRCLE STILE;4JOT;3SLASH BAR;3BACKSLASH BAR;
3QUAD SLASH;4BACKSLASH;4LESS-THAN;4GREATER-THAN;3LEFTWARDS VANE;3RIGHTWARDS VANE;
3QUAD LEFTWARDS ARROW;4RIGHTWARDS ARROW;3CIRCLE BACKSLASH;3DOWN TACK UNDERBAR;3DELTA STILE;
3QUAD DOWN CARET;4DELTA;3DOWN TACK JOT;3UPWARDS VANE;3QUAD UPWARDS ARROW;3UP TACK OVERBAR;
3DEL STILE;3QUAD UP CARET;4DEL;3UP TACK JOT;3DOWNWARDS VANE;3QUAD DOWNWARDS ARROW;3QUOTE UNDERBAR;
3DELTA UNDERBAR;3DIAMOND UNDERBAR;3JOT UNDERBAR;3CIRCLE UNDERBAR;3UP SHOE JOT;3QUOTE QUAD;
3CIRCLE STAR;3QUAD COLON;3UP TACK DIAERESIS;3DEL DIAERESIS;3STAR DIAERESIS;3JOT DIAERESIS;
3CIRCLE DIAERESIS;3DOWN SHOE STILE;3LEFT SHOE STILE;3TILDE DIAERESIS;3GREATER-THAN DIAERESIS;
3COMMA BAR;3DEL TILDE;3ZILDE;3STILE TILDE;3SEMICOLON UNDERBAR;3QUAD NOT EQUAL;4QUESTION;
3DOWN CARET TILDE;3UP CARET TILDE;3IOTA;3RHO;3OMEGA;3ALPHA UNDERBAR;3EPSILON UNDERBAR;
3IOTA UNDERBAR;3OMEGA UNDERBAR;3ALPHA;0NOT CHECK MARK;0RIGHT ANGLE WITH DOWNWARDS ZIGZAG ARROW;
0SHOULDERED OPEN BOX;0BELL SYMBOL;0VERTICAL LINE WITH MIDDLE DOT;0INSERTION SYMBOL;
0CONTINUOUS UNDERLINE SYMBOL;0DISCONTINUOUS UNDERLINE SYMBOL;0EMPHASIS SYMBOL;0COMPOSITION SYMBOL;
0WHITE SQUARE WITH CENTRE VERTICAL LINE;0ENTER SYMBOL;0ALTERNATIVE KEY SYMBOL;0HELM SYMBOL;
0CIRCLED HORIZONTAL BAR WITH NOTCH;1TRIANGLE DOWN;0BROKEN CIRCLE WITH NORTHWEST ARROW;0UNDO SYMBOL;
0MONOSTABLE SYMBOL;0HYSTERESIS SYMBOL;0OPEN-CIRCUIT-OUTPUT H-TYPE SYMBOL;1L-TYPE SYMBOL;
0PASSIVE-PULL-DOWN-OUTPUT SYMBOL;0PASSIVE-PULL-UP-OUTPUT SYMBOL;0DIRECT CURRENT SYMBOL FORM TWO;
0SOFTWARE-FUNCTION SYMBOL;0APL FUNCTIONAL SYMBOL QUAD;0DECIMAL SEPARATOR KEY SYMBOL;0PREVIOUS PAGE;
0NEXT PAGE;0PRINT SCREEN SYMBOL;0CLEAR SCREEN SYMBOL;0LEFT PARENTHESIS UPPER HOOK;2EXTENSION;
2LOWER HOOK;0RIGHT PARENTHESIS UPPER HOOK;2EXTENSION;2LOWER HOOK;0LEFT SQUARE BRACKET UPPER CORNER;
3EXTENSION;3LOWER CORNER;0RIGHT SQUARE BRACKET UPPER CORNER;3EXTENSION;3LOWER CORNER;
0LEFT CURLY BRACKET UPPER HOOK;3MIDDLE PIECE;3LOWER HOOK;0CURLY BRACKET EXTENSION;
0RIGHT CURLY BRACKET UPPER HOOK;3MIDDLE PIECE;3LOWER HOOK;0INTEGRAL EXTENSION;
0HORIZONTAL LINE EXTENSION;0UPPER LEFT OR LOWER RIGHT CURLY BRACKET SECTION;
1RIGHT OR LOWER LEFT CURLY BRACKET SECTION;0SUMMATION TOP;1BOTTOM;0TOP SQUARE BRACKET;
0BOTTOM SQUARE BRACKET;3OVER TOP SQUARE BRACKET;0RADICAL SYMBOL BOTTOM;0LEFT VERTICAL BOX LINE;
0RIGHT VERTICAL BOX LINE;0HORIZONTAL SCAN LINE-1;2LINE-3;2LINE-7;2LINE-9;
0DENTISTRY SYMBOL LIGHT VERTICAL AND TOP RIGHT;5BOTTOM RIGHT;4WITH CIRCLE;
3DOWN AND HORIZONTAL WITH CIRCLE;3UP AND HORIZONTAL WITH CIRCLE;3VERTICAL WITH TRIANGLE;
3DOWN AND HORIZONTAL WITH TRIANGLE;3UP AND HORIZONTAL WITH TRIANGLE;3VERTICAL AND WAVE;
3DOWN AND HORIZONTAL WITH WAVE;3UP AND HORIZONTAL WITH WAVE;3DOWN AND HORIZONTAL;3UP AND HORIZONTAL;
3VERTICAL AND TOP LEFT;5BOTTOM LEFT;0SQUARE FOOT;0RETURN SYMBOL;0EJECT SYMBOL;
0VERTICAL LINE EXTENSION;0METRICAL BREVE;1LONG OVER SHORT;1SHORT OVER LONG;1LONG OVER TWO SHORTS;
1TWO SHORTS OVER LONG;3JOINED;1TRISEME;1TETRASEME;1PENTASEME;0EARTH GROUND;0FUSE;0TOP PARENTHESIS;
0BOTTOM PARENTHESIS;0TOP CURLY BRACKET;0BOTTOM CURLY BRACKET;0TOP TORTOISE SHELL BRACKET;
0BOTTOM TORTOISE SHELL BRACKET;0WHITE TRAPEZIUM;0BENZENE RING WITH CIRCLE;0STRAIGHTNESS;0FLATNESS;
0AC CURRENT;0ELECTRICAL INTERSECTION;0DECIMAL EXPONENT SYMBOL;0BLACK RIGHT-POINTING DOUBLE TRIANGLE;
1LEFT-POINTING DOUBLE TRIANGLE;1UP-POINTING DOUBLE TRIANGLE;1DOWN-POINTING DOUBLE TRIANGLE;
1RIGHT-POINTING DOUBLE TRIANGLE WITH VERTICAL BAR;1LEFT-POINTING DOUBLE TRIANGLE WITH VERTICAL BAR;
1RIGHT-POINTING TRIANGLE WITH DOUBLE VERTICAL BAR;0ALARM CLOCK;0STOPWATCH;0TIMER CLOCK;
0HOURGLASS WITH FLOWING SAND;0BLACK MEDIUM LEFT-POINTING TRIANGLE;2RIGHT-POINTING TRIANGLE;
2UP-POINTING TRIANGLE;2DOWN-POINTING TRIANGLE;0DOUBLE VERTICAL BAR;0BLACK SQUARE FOR STOP;
1CIRCLE FOR RECORD;0POWER SYMBOL;1ON-OFF SYMBOL;1ON SYMBOL;1SLEEP SYMBOL;0OBSERVER EYE SYMBOL;
0SYMBOL FOR NULL;2START OF HEADING;4TEXT;2END OF TEXT;4TRANSMISSION;2ENQUIRY;2ACKNOWLEDGE;2BELL;
2BACKSPACE;2HORIZONTAL TABULATION;2LINE FEED;2VERTICAL TABULATION;2FORM FEED;2CARRIAGE RETURN;
2SHIFT OUT;3IN;2DATA LINK ESCAPE;2DEVICE CONTROL ONE;4TWO;4THREE;4FOUR;2NEGATIVE ACKNOWLEDGE;
2SYNCHRONOUS IDLE;2END OF TRANSMISSION BLOCK;2CANCEL;2END OF MEDIUM;2SUBSTITUTE;2ESCAPE;
2FILE SEPARATOR;2GROUP SEPARATOR;2RECORD SEPARATOR;2UNIT SEPARATOR;2SPACE;2DELETE;0BLANK SYMBOL;
0OPEN BOX;0SYMBOL FOR NEWLINE;2DELETE FORM TWO;2SUBSTITUTE FORM TWO;=2440;0OCR HOOK;1CHAIR;1FORK;
1INVERTED FORK;1BELT BUCKLE;1BOW TIE;1BRANCH BANK IDENTIFICATION;1AMOUNT OF CHECK;1DASH;
1CUSTOMER ACCOUNT NUMBER;1DOUBLE BACKSLASH;=2460;0CIRCLED DIGIT ONE;2TWO;2THREE;2FOUR;2FIVE;2SIX;
2SEVEN;2EIGHT;2NINE;1NUMBER TEN;2ELEVEN;2TWELVE;2THIRTEEN;2FOURTEEN;2FIFTEEN;2SIXTEEN;2SEVENTEEN;
2EIGHTEEN;2NINETEEN;2TWENTY;0PARENTHESIZED DIGIT ONE;2TWO;2THREE;2FOUR;2FIVE;2SIX;2SEVEN;2EIGHT;
2NINE;1NUMBER TEN;2ELEVEN;2TWELVE;2THIRTEEN;2FOURTEEN;2FIFTEEN;2SIXTEEN;2SEVENTEEN;2EIGHTEEN;
2NINETEEN;2TWENTY;0DIGIT ONE FULL STOP;1TWO FULL STOP;1THREE FULL STOP;1FOUR FULL STOP;
1FIVE FULL STOP;1SIX FULL STOP;1SEVEN FULL STOP;1EIGHT FULL STOP;1NINE FULL STOP;
0NUMBER TEN FULL STOP;1ELEVEN FULL STOP;1TWELVE FULL STOP;1THIRTEEN FULL STOP;1FOURTEEN FULL STOP;
1FIFTEEN FULL STOP;1SIXTEEN FULL STOP;1SEVENTEEN FULL STOP;1EIGHTEEN FULL STOP;1NINETEEN FULL STOP;
1TWENTY FULL STOP;0PARENTHESIZED LATIN SMALL LETTER A;4B;4C;4D;4E;4F;4G;4H;4I;4J;4K;4L;4M;4N;4O;4P;
4Q;4R;4S;4T;4U;4V;4W;4X;4Y;4Z;0CIRCLED LATIN CAPITAL LETTER A;4B;4C;4D;4E;4F;4G;4H;4I;4J;4K;4L;4M;
4N;4O;4P;4Q;4R;4S;4T;4U;4V;4W;4X;4Y;4Z;2SMALL LETTER A;4B;4C;4D;4E;4F;4G;4H;4I;4J;4K;4L;4M;4N;4O;4P;
4Q;4R;4S;4T;4U;4V;4W;4X;4Y;4Z;1DIGIT ZERO;0NEGATIVE CIRCLED NUMBER ELEVEN;3TWELVE;3THIRTEEN;
3FOURTEEN;3FIFTEEN;3SIXTEEN;3SEVENTEEN;3EIGHTEEN;3NINETEEN;3TWENTY;0DOUBLE CIRCLED DIGIT ONE;3TWO;
3THREE;3FOUR;3FIVE;3SIX;3SEVEN;3EIGHT;3NINE;2NUMBER TEN;0NEGATIVE CIRCLED DIGIT ZERO;
0BOX DRAWINGS LIGHT HORIZONTAL;2HEAVY HORIZONTAL;2LIGHT VERTICAL;2HEAVY VERTICAL;
2LIGHT TRIPLE DASH HORIZONTAL;2HEAVY TRIPLE DASH HORIZONTAL;2LIGHT TRIPLE DASH VERTICAL;
2HEAVY TRIPLE DASH VERTICAL;2LIGHT QUADRUPLE DASH HORIZONTAL;2HEAVY QUADRUPLE DASH HORIZONTAL;
2LIGHT QUADRUPLE DASH VERTICAL;2HEAVY QUADRUPLE DASH VERTICAL;2LIGHT DOWN AND RIGHT;
2DOWN LIGHT AND RIGHT HEAVY;3HEAVY AND RIGHT LIGHT;2HEAVY DOWN AND RIGHT;2LIGHT DOWN AND LEFT;
2DOWN LIGHT AND LEFT HEAVY;3HEAVY AND LEFT LIGHT;2HEAVY DOWN AND LEFT;2LIGHT UP AND RIGHT;
2UP LIGHT AND RIGHT HEAVY;3HEAVY AND RIGHT LIGHT;2HEAVY UP AND RIGHT;2LIGHT UP AND LEFT;
2UP LIGHT AND LEFT HEAVY;3HEAVY AND LEFT LIGHT;2HEAVY UP AND LEFT;2LIGHT VERTICAL AND RIGHT;
2VERTICAL LIGHT AND RIGHT HEAVY;2UP HEAVY AND RIGHT DOWN LIGHT;2DOWN HEAVY AND RIGHT UP LIGHT;
2VERTICAL HEAVY AND RIGHT LIGHT;2DOWN LIGHT AND RIGHT UP HEAVY;2UP LIGHT AND RIGHT DOWN HEAVY;
2HEAVY VERTICAL AND RIGHT;2LIGHT VERTICAL AND LEFT;2VERTICAL LIGHT AND LEFT HEAVY;
2UP HEAVY AND LEFT DOWN LIGHT;2DOWN HEAVY AND LEFT UP LIGHT;2VERTICAL HEAVY AND LEFT LIGHT;
2DOWN LIGHT AND LEFT UP HEAVY;2UP LIGHT AND LEFT DOWN HEAVY;2HEAVY VERTICAL AND LEFT;
2LIGHT DOWN AND HORIZONTAL;2LEFT HEAVY AND RIGHT DOWN LIGHT;2RIGHT HEAVY AND LEFT DOWN LIGHT;
2DOWN LIGHT AND HORIZONTAL HEAVY;3HEAVY AND HORIZONTAL LIGHT;2RIGHT LIGHT AND LEFT DOWN HEAVY;
2LEFT LIGHT AND RIGHT DOWN HEAVY;2HEAVY DOWN AND HORIZONTAL;2LIGHT UP AND HORIZONTAL;
2LEFT HEAVY AND RIGHT UP LIGHT;2RIGHT HEAVY AND LEFT UP LIGHT;2UP LIGHT AND HORIZONTAL HEAVY;
3HEAVY AND HORIZONTAL LIGHT;2RIGHT LIGHT AND LEFT UP HEAVY;2LEFT LIGHT AND RIGHT UP HEAVY;
2HEAVY UP AND HORIZONTAL;2LIGHT VERTICAL AND HORIZONTAL;2LEFT HEAVY AND RIGHT VERTICAL LIGHT;
2RIGHT HEAVY AND LEFT VERTICAL LIGHT;2VERTICAL LIGHT AND HORIZONTAL HEAVY;
2UP HEAVY AND DOWN HORIZONTAL LIGHT;2DOWN HEAVY AND UP HORIZONTAL LIGHT;
2VERTICAL HEAVY AND HORIZONTAL LIGHT;2LEFT UP HEAVY AND RIGHT DOWN LIGHT;
2RIGHT UP HEAVY AND LEFT DOWN LIGHT;2LEFT DOWN HEAVY AND RIGHT UP LIGHT;
2RIGHT DOWN HEAVY AND LEFT UP LIGHT;2DOWN LIGHT AND UP HORIZONTAL HEAVY;
2UP LIGHT AND DOWN HORIZONTAL HEAVY;2RIGHT LIGHT AND LEFT VERTICAL HEAVY;
2LEFT LIGHT AND RIGHT VERTICAL HEAVY;2HEAVY VERTICAL AND HORIZONTAL;2LIGHT DOUBLE DASH HORIZONTAL;
2HEAVY DOUBLE DASH HORIZONTAL;2LIGHT DOUBLE DASH VERTICAL;2HEAVY DOUBLE DASH VERTICAL;
2DOUBLE HORIZONTAL;3VERTICAL;2DOWN SINGLE AND RIGHT DOUBLE;3DOUBLE AND RIGHT SINGLE;
2DOUBLE DOWN AND RIGHT;2DOWN SINGLE AND LEFT DOUBLE;3DOUBLE AND LEFT SINGLE;2DOUBLE DOWN AND LEFT;
2UP SINGLE AND RIGHT DOUBLE;3DOUBLE AND RIGHT SINGLE;2DOUBLE UP AND RIGHT;
2UP SINGLE AND LEFT DOUBLE;3DOUBLE AND LEFT SINGLE;2DOUBLE UP AND LEFT;
2VERTICAL SINGLE AND RIGHT DOUBLE;3DOUBLE AND RIGHT SINGLE;2DOUBLE VERTICAL AND RIGHT;
2VERTICAL SINGLE AND LEFT DOUBLE;3DOUBLE AND LEFT SINGLE;2DOUBLE VERTICAL AND LEFT;
2DOWN SINGLE AND HORIZONTAL DOUBLE;3DOUBLE AND HORIZONTAL SINGLE;2DOUBLE DOWN AND HORIZONTAL;
2UP SINGLE AND HORIZONTAL DOUBLE;3DOUBLE AND HORIZONTAL SINGLE;2DOUBLE UP AND HORIZONTAL;
2VERTICAL SINGLE AND HORIZONTAL DOUBLE;3DOUBLE AND HORIZONTAL SINGLE;
2DOUBLE VERTICAL AND HORIZONTAL;2LIGHT ARC DOWN AND RIGHT;6LEFT;4UP AND LEFT;6RIGHT;
3DIAGONAL UPPER RIGHT TO LOWER LEFT;5LEFT TO LOWER RIGHT;4CROSS;3LEFT;3UP;3RIGHT;3DOWN;2HEAVY LEFT;
3UP;3RIGHT;3DOWN;2LIGHT LEFT AND HEAVY RIGHT;3UP AND HEAVY DOWN;2HEAVY LEFT AND LIGHT RIGHT;
3UP AND LIGHT DOWN;0UPPER HALF BLOCK;0LOWER ONE EIGHTH BLOCK;2QUARTER BLOCK;1THREE EIGHTHS BLOCK;
1HALF BLOCK;1FIVE EIGHTHS BLOCK;1THREE QUARTERS BLOCK;1SEVEN EIGHTHS BLOCK;0FULL BLOCK;
0LEFT SEVEN EIGHTHS BLOCK;1THREE QUARTERS BLOCK;1FIVE EIGHTHS BLOCK;1HALF BLOCK;
1THREE EIGHTHS BLOCK;1ONE QUARTER BLOCK;2EIGHTH BLOCK;0RIGHT HALF BLOCK;0LIGHT SHADE;0MEDIUM SHADE;
0DARK SHADE;0UPPER ONE EIGHTH BLOCK;0RIGHT ONE EIGHTH BLOCK;0QUADRANT LOWER LEFT;2RIGHT;1UPPER LEFT;
3AND LOWER LEFT AND LOWER RIGHT;5RIGHT;4UPPER RIGHT AND LOWER LEFT;8RIGHT;2RIGHT;3AND LOWER LEFT;
6AND LOWER RIGHT;0BLACK SQUARE;0WHITE SQUARE;2WITH ROUNDED CORNERS;2CONTAINING BLACK SMALL SQUARE;
0SQUARE WITH HORIZONTAL FILL;2VERTICAL FILL;2ORTHOGONAL CROSSHATCH FILL;
2UPPER LEFT TO LOWER RIGHT FILL;3RIGHT TO LOWER LEFT FILL;2DIAGONAL CROSSHATCH FILL;
0BLACK SMALL SQUARE;0WHITE SMALL SQUARE;0BLACK RECTANGLE;0WHITE RECTANGLE;0BLACK VERTICAL RECTANGLE;
0WHITE VERTICAL RECTANGLE;0BLACK PARALLELOGRAM;0WHITE PARALLELOGRAM;0BLACK UP-POINTING TRIANGLE;
0WHITE UP-POINTING TRIANGLE;0BLACK UP-POINTING SMALL TRIANGLE;0WHITE UP-POINTING SMALL TRIANGLE;
0BLACK RIGHT-POINTING TRIANGLE;0WHITE RIGHT-POINTING TRIANGLE;0BLACK RIGHT-POINTING SMALL TRIANGLE;
0WHITE RIGHT-POINTING SMALL TRIANGLE;0BLACK RIGHT-POINTING POINTER;0WHITE RIGHT-POINTING POINTER;
0BLACK DOWN-POINTING TRIANGLE;0WHITE DOWN-POINTING TRIANGLE;0BLACK DOWN-POINTING SMALL TRIANGLE;
0WHITE DOWN-POINTING SMALL TRIANGLE;0BLACK LEFT-POINTING TRIANGLE;0WHITE LEFT-POINTING TRIANGLE;
0BLACK LEFT-POINTING SMALL TRIANGLE;0WHITE LEFT-POINTING SMALL TRIANGLE;
0BLACK LEFT-POINTING POINTER;0WHITE LEFT-POINTING POINTER;0BLACK DIAMOND;0WHITE DIAMOND;
2CONTAINING BLACK SMALL DIAMOND;0FISHEYE;0LOZENGE;0WHITE CIRCLE;0DOTTED CIRCLE;
0CIRCLE WITH VERTICAL FILL;0BULLSEYE;0BLACK CIRCLE;0CIRCLE WITH LEFT HALF BLACK;2RIGHT HALF BLACK;
2LOWER HALF BLACK;2UPPER HALF BLACK;3RIGHT QUADRANT BLACK;2ALL BUT UPPER LEFT QUADRANT BLACK;
0LEFT HALF BLACK CIRCLE;0RIGHT HALF BLACK CIRCLE;0INVERSE BULLET;1WHITE CIRCLE;
0UPPER HALF INVERSE WHITE CIRCLE;0LOWER HALF INVERSE WHITE CIRCLE;0UPPER LEFT QUADRANT CIRCULAR ARC;
1RIGHT QUADRANT CIRCULAR ARC;0LOWER RIGHT QUADRANT CIRCULAR ARC;1LEFT QUADRANT CIRCULAR ARC;
0UPPER HALF CIRCLE;0LOWER HALF CIRCLE;0BLACK LOWER RIGHT TRIANGLE;2LEFT TRIANGLE;
1UPPER LEFT TRIANGLE;2RIGHT TRIANGLE;0WHITE BULLET;0SQUARE WITH LEFT HALF BLACK;2RIGHT HALF BLACK;
2UPPER LEFT DIAGONAL HALF BLACK;2LOWER RIGHT DIAGONAL HALF BLACK;
0WHITE SQUARE WITH VERTICAL BISECTING LINE;1UP-POINTING TRIANGLE WITH DOT;
0UP-POINTING TRIANGLE WITH LEFT HALF BLACK;3RIGHT HALF BLACK;0LARGE CIRCLE;
0WHITE SQUARE WITH UPPER LEFT QUADRANT;3LOWER LEFT QUADRANT;4RIGHT QUADRANT;3UPPER RIGHT QUADRANT;
1CIRCLE WITH UPPER LEFT QUADRANT;3LOWER LEFT QUADRANT;4RIGHT QUADRANT;3UPPER RIGHT QUADRANT;
0UPPER LEFT TRIANGLE;1RIGHT TRIANGLE;0LOWER LEFT TRIANGLE;0WHITE MEDIUM SQUARE;0BLACK MEDIUM SQUARE;
0WHITE MEDIUM SMALL SQUARE;0BLACK MEDIUM SMALL SQUARE;0LOWER RIGHT TRIANGLE;0BLACK SUN WITH RAYS;
0CLOUD;0UMBRELLA;0SNOWMAN;0COMET;0BLACK STAR;0WHITE STAR;0LIGHTNING;0THUNDERSTORM;0SUN;
0ASCENDING NODE;0DESCENDING NODE;0CONJUNCTION;0OPPOSITION;0BLACK TELEPHONE;0WHITE TELEPHONE;
0BALLOT BOX;2WITH CHECK;3X;0SALTIRE;0UMBRELLA WITH RAIN DROPS;0HOT BEVERAGE;0WHITE SHOGI PIECE;
0BLACK SHOGI PIECE;0SHAMROCK;0REVERSED ROTATED FLORAL HEART BULLET;0BLACK LEFT POINTING INDEX;
1RIGHT POINTING INDEX;0WHITE LEFT POINTING INDEX;1UP POINTING INDEX;1RIGHT POINTING INDEX;
1DOWN POINTING INDEX;0SKULL AND CROSSBONES;0CAUTION SIGN;0RADIOACTIVE SIGN;0BIOHAZARD SIGN;
0CADUCEUS;0ANKH;0ORTHODOX CROSS;0CHI RHO;0CROSS OF LORRAINE;2JERUSALEM;0STAR AND CRESCENT;
0FARSI SYMBOL;0ADI SHAKTI;0HAMMER AND SICKLE;0PEACE SYMBOL;0YIN YANG;0TRIGRAM FOR HEAVEN;2LAKE;
2FIRE;2THUNDER;2WIND;2WATER;2MOUNTAIN;2EARTH;0WHEEL OF DHARMA;0WHITE FROWNING FACE;1SMILING FACE;
0BLACK SMILING FACE;0WHITE SUN WITH RAYS;0FIRST QUARTER MOON;0LAST QUARTER MOON;0MERCURY;
0FEMALE SIGN;0EARTH;0MALE SIGN;0JUPITER;0SATURN;0URANUS;0NEPTUNE;0PLUTO;0ARIES;0TAURUS;0GEMINI;
0CANCER;0LEO;0VIRGO;0LIBRA;0SCORPIUS;0SAGITTARIUS;0CAPRICORN;0AQUARIUS;0PISCES;0WHITE CHESS KING;
2QUEEN;2ROOK;2BISHOP;2KNIGHT;2PAWN;0BLACK CHESS KING;2QUEEN;2ROOK;2BISHOP;2KNIGHT;2PAWN;1SPADE SUIT;
0WHITE HEART SUIT;1DIAMOND SUIT;0BLACK CLUB SUIT;0WHITE SPADE SUIT;0BLACK HEART SUIT;1DIAMOND SUIT;
0WHITE CLUB SUIT;0HOT SPRINGS;0QUARTER NOTE;0EIGHTH NOTE;0BEAMED EIGHTH NOTES;1SIXTEENTH NOTES;
0MUSIC FLAT SIGN;1NATURAL SIGN;1SHARP SIGN;0WEST SYRIAC CROSS;0EAST SYRIAC CROSS;
0UNIVERSAL RECYCLING SYMBOL;0RECYCLING SYMBOL FOR TYPE-1 PLASTICS;3TYPE-2 PLASTICS;3TYPE-3 PLASTICS;
3TYPE-4 PLASTICS;3TYPE-5 PLASTICS;3TYPE-6 PLASTICS;3TYPE-7 PLASTICS;3GENERIC MATERIALS;
0BLACK UNIVERSAL RECYCLING SYMBOL;0RECYCLED PAPER SYMBOL;0PARTIALLY-RECYCLED PAPER SYMBOL;
0PERMANENT PAPER SIGN;0WHEELCHAIR SYMBOL;0DIE FACE-1;1FACE-2;1FACE-3;1FACE-4;1FACE-5;1FACE-6;
0WHITE CIRCLE WITH DOT RIGHT;3TWO DOTS;0BLACK CIRCLE WITH WHITE DOT RIGHT;3TWO WHITE DOTS;
0MONOGRAM FOR YANG;2YIN;0DIGRAM FOR GREATER YANG;2LESSER YIN;3YANG;2GREATER YIN;0WHITE FLAG;
0BLACK FLAG;0HAMMER AND PICK;0ANCHOR;0CROSSED SWORDS;0STAFF OF AESCULAPIUS;0SCALES;0ALEMBIC;0FLOWER;
0GEAR;0STAFF OF HERMES;0ATOM SYMBOL;0FLEUR-DE-LIS;0OUTLINED WHITE STAR;
0THREE LINES CONVERGING RIGHT;3LEFT;0WARNING SIGN;0HIGH VOLTAGE SIGN;0DOUBLED FEMALE SIGN;
1MALE SIGN;0INTERLOCKED FEMALE AND MALE SIGN;0MALE AND FEMALE SIGN;1WITH STROKE SIGN;
3AND MALE AND FEMALE SIGN;0VERTICAL MALE WITH STROKE SIGN;0HORIZONTAL MALE WITH STROKE SIGN;
0MEDIUM WHITE CIRCLE;1BLACK CIRCLE;1SMALL WHITE CIRCLE;0MARRIAGE SYMBOL;0DIVORCE SYMBOL;
0UNMARRIED PARTNERSHIP SYMBOL;0COFFIN;0FUNERAL URN;0NEUTER;0CERES;0PALLAS;0JUNO;0VESTA;0CHIRON;
0BLACK MOON LILITH;0SEXTILE;0SEMISEXTILE;0QUINCUNX;0SESQUIQUADRATE;0SOCCER BALL;0BASEBALL;
0SQUARED KEY;0WHITE DRAUGHTS MAN;2KING;0BLACK DRAUGHTS MAN;2KING;0SNOWMAN WITHOUT SNOW;
0SUN BEHIND CLOUD;0RAIN;0BLACK SNOWMAN;0THUNDER CLOUD AND RAIN;0TURNED WHITE SHOGI PIECE;
1BLACK SHOGI PIECE;0WHITE DIAMOND IN SQUARE;0CROSSING LANES;0DISABLED CAR;0OPHIUCHUS;0PICK;
0CAR SLIDING;0HELMET WITH WHITE CROSS;0CIRCLED CROSSING LANES;0CHAINS;0NO ENTRY;
0ALTERNATE ONE-WAY LEFT WAY TRAFFIC;0BLACK TWO-WAY LEFT WAY TRAFFIC;0WHITE TWO-WAY LEFT WAY TRAFFIC;
0BLACK LEFT LANE MERGE;0WHITE LEFT LANE MERGE;0DRIVE SLOW SIGN;0HEAVY WHITE DOWN-POINTING TRIANGLE;
0LEFT CLOSED ENTRY;0SQUARED SALTIRE;0FALLING DIAGONAL IN WHITE CIRCLE IN BLACK SQUARE;0BLACK TRUCK;
0RESTRICTED LEFT ENTRY-1;2ENTRY-2;0ASTRONOMICAL SYMBOL FOR URANUS;
0HEAVY CIRCLE WITH STROKE AND TWO DOTS ABOVE;0PENTAGRAM;0RIGHT-HANDED INTERLACED PENTAGRAM;
0LEFT-HANDED INTERLACED PENTAGRAM;0INVERTED PENTAGRAM;0BLACK CROSS ON SHIELD;0SHINTO SHRINE;0CHURCH;
0CASTLE;0HISTORIC SITE;0GEAR WITHOUT HUB;1WITH HANDLES;0MAP SYMBOL FOR LIGHTHOUSE;0MOUNTAIN;
0UMBRELLA ON GROUND;0FOUNTAIN;0FLAG IN HOLE;0FERRY;0SAILBOAT;0SQUARE FOUR CORNERS;0SKIER;0ICE SKATE;
0PERSON WITH BALL;0TENT;0JAPANESE BANK SYMBOL;0HEADSTONE GRAVEYARD SYMBOL;0FUEL PUMP;
0CUP ON BLACK SQUARE;0WHITE FLAG WITH HORIZONTAL MIDDLE BLACK STRIPE;0BLACK SAFETY SCISSORS;
0UPPER BLADE SCISSORS;0BLACK SCISSORS;0LOWER BLADE SCISSORS;0WHITE SCISSORS;1HEAVY CHECK MARK;
0TELEPHONE LOCATION SIGN;0TAPE DRIVE;0AIRPLANE;0ENVELOPE;0RAISED FIST;1HAND;0VICTORY HAND;
0WRITING HAND;0LOWER RIGHT PENCIL;0PENCIL;0UPPER RIGHT PENCIL;0WHITE NIB;0BLACK NIB;0CHECK MARK;
0HEAVY CHECK MARK;0MULTIPLICATION X;0HEAVY MULTIPLICATION X;0BALLOT X;0HEAVY BALLOT X;
0OUTLINED GREEK CROSS;0HEAVY GREEK CROSS;0OPEN CENTRE CROSS;0HEAVY OPEN CENTRE CROSS;0LATIN CROSS;
0SHADOWED WHITE LATIN CROSS;0OUTLINED LATIN CROSS;0MALTESE CROSS;0STAR OF DAVID;
0FOUR TEARDROP-SPOKED ASTERISK;1BALLOON-SPOKED ASTERISK;0HEAVY FOUR BALLOON-SPOKED ASTERISK;
0FOUR CLUB-SPOKED ASTERISK;0BLACK FOUR POINTED STAR;0WHITE FOUR POINTED STAR;0SPARKLES;
0STRESS OUTLINED WHITE STAR;0CIRCLED WHITE STAR;0OPEN CENTRE BLACK STAR;0BLACK CENTRE WHITE STAR;
0OUTLINED BLACK STAR;0HEAVY OUTLINED BLACK STAR;0PINWHEEL STAR;0SHADOWED WHITE STAR;0HEAVY ASTERISK;
0OPEN CENTRE ASTERISK;0EIGHT SPOKED ASTERISK;1POINTED BLACK STAR;2PINWHEEL STAR;
0SIX POINTED BLACK STAR;0EIGHT POINTED RECTILINEAR BLACK STAR;
0HEAVY EIGHT POINTED RECTILINEAR BLACK STAR;0TWELVE POINTED BLACK STAR;0SIXTEEN POINTED ASTERISK;
0TEARDROP-SPOKED ASTERISK;0OPEN CENTRE TEARDROP-SPOKED ASTERISK;0HEAVY TEARDROP-SPOKED ASTERISK;
0SIX PETALLED BLACK AND WHITE FLORETTE;0BLACK FLORETTE;0WHITE FLORETTE;
0EIGHT PETALLED OUTLINED BLACK FLORETTE;0CIRCLED OPEN CENTRE EIGHT POINTED STAR;
0HEAVY TEARDROP-SPOKED PINWHEEL ASTERISK;0SNOWFLAKE;0TIGHT TRIFOLIATE SNOWFLAKE;
0HEAVY CHEVRON SNOWFLAKE;0SPARKLE;0HEAVY SPARKLE;0BALLOON-SPOKED ASTERISK;
0EIGHT TEARDROP-SPOKED PROPELLER ASTERISK;0HEAVY EIGHT TEARDROP-SPOKED PROPELLER ASTERISK;
0CROSS MARK;0SHADOWED WHITE CIRCLE;0NEGATIVE SQUARED CROSS MARK;
0LOWER RIGHT DROP-SHADOWED WHITE SQUARE;0UPPER RIGHT DROP-SHADOWED WHITE SQUARE;
0LOWER RIGHT SHADOWED WHITE SQUARE;0UPPER RIGHT SHADOWED WHITE SQUARE;0BLACK QUESTION MARK ORNAMENT;
0WHITE QUESTION MARK ORNAMENT;1EXCLAMATION MARK ORNAMENT;0BLACK DIAMOND MINUS WHITE X;
0HEAVY EXCLAMATION MARK SYMBOL;0LIGHT VERTICAL BAR;0MEDIUM VERTICAL BAR;0HEAVY VERTICAL BAR;
1SINGLE TURNED COMMA QUOTATION MARK ORNAMENT;2COMMA QUOTATION MARK ORNAMENT;
1DOUBLE TURNED COMMA QUOTATION MARK ORNAMENT;2COMMA QUOTATION MARK ORNAMENT;
1LOW SINGLE COMMA QUOTATION MARK ORNAMENT;2DOUBLE COMMA QUOTATION MARK ORNAMENT;
0CURVED STEM PARAGRAPH SIGN ORNAMENT;0HEAVY EXCLAMATION MARK ORNAMENT;
1HEART EXCLAMATION MARK ORNAMENT;1BLACK HEART;0ROTATED HEAVY BLACK HEART BULLET;0FLORAL HEART;
0ROTATED FLORAL HEART BULLET;0MEDIUM LEFT PARENTHESIS ORNAMENT;1RIGHT PARENTHESIS ORNAMENT;
1FLATTENED LEFT PARENTHESIS ORNAMENT;2RIGHT PARENTHESIS ORNAMENT;
1LEFT-POINTING ANGLE BRACKET ORNAMENT;1RIGHT-POINTING ANGLE BRACKET ORNAMENT;
0HEAVY LEFT-POINTING ANGLE QUOTATION MARK ORNAMENT;1RIGHT-POINTING ANGLE QUOTATION MARK ORNAMENT;
1LEFT-POINTING ANGLE BRACKET ORNAMENT;1RIGHT-POINTING ANGLE BRACKET ORNAMENT;
0LIGHT LEFT TORTOISE SHELL BRACKET ORNAMENT;1RIGHT TORTOISE SHELL BRACKET ORNAMENT;
0MEDIUM LEFT CURLY BRACKET ORNAMENT;1RIGHT CURLY BRACKET ORNAMENT;
0DINGBAT NEGATIVE CIRCLED DIGIT ONE;4TWO;4THREE;4FOUR;4FIVE;4SIX;4SEVEN;4EIGHT;4NINE;3NUMBER TEN;
1CIRCLED SANS-SERIF DIGIT ONE;4TWO;4THREE;4FOUR;4FIVE;4SIX;4SEVEN;4EIGHT;4NINE;3NUMBER TEN;
1NEGATIVE CIRCLED SANS-SERIF DIGIT ONE;5TWO;5THREE;5FOUR;5FIVE;5SIX;5SEVEN;5EIGHT;5NINE;4NUMBER TEN;
0HEAVY WIDE-HEADED RIGHTWARDS ARROW;1PLUS SIGN;1MINUS SIGN;1DIVISION SIGN;1SOUTH EAST ARROW;
1RIGHTWARDS ARROW;1NORTH EAST ARROW;0DRAFTING POINT RIGHTWARDS ARROW;
0HEAVY ROUND-TIPPED RIGHTWARDS ARROW;0TRIANGLE-HEADED RIGHTWARDS ARROW;
0HEAVY TRIANGLE-HEADED RIGHTWARDS ARROW;0DASHED TRIANGLE-HEADED RIGHTWARDS ARROW;
0HEAVY DASHED TRIANGLE-HEADED RIGHTWARDS ARROW;0BLACK RIGHTWARDS ARROW;
0THREE-D TOP-LIGHTED RIGHTWARDS ARROWHEAD;1BOTTOM-LIGHTED RIGHTWARDS ARROWHEAD;
0BLACK RIGHTWARDS ARROWHEAD;0HEAVY BLACK CURVED DOWNWARDS AND RIGHTWARDS ARROW;
3UPWARDS AND RIGHTWARDS ARROW;0SQUAT BLACK RIGHTWARDS ARROW;
0HEAVY CONCAVE-POINTED BLACK RIGHTWARDS ARROW;0RIGHT-SHADED WHITE RIGHTWARDS ARROW;
0LEFT-SHADED WHITE RIGHTWARDS ARROW;0BACK-TILTED SHADOWED WHITE RIGHTWARDS ARROW;
0FRONT-TILTED SHADOWED WHITE RIGHTWARDS ARROW;0HEAVY LOWER RIGHT-SHADOWED WHITE RIGHTWARDS ARROW;
1UPPER RIGHT-SHADOWED WHITE RIGHTWARDS ARROW;0NOTCHED LOWER RIGHT-SHADOWED WHITE RIGHTWARDS ARROW;
0CURLY LOOP;0NOTCHED UPPER RIGHT-SHADOWED WHITE RIGHTWARDS ARROW;
0CIRCLED HEAVY WHITE RIGHTWARDS ARROW;0WHITE-FEATHERED RIGHTWARDS ARROW;
0BLACK-FEATHERED SOUTH EAST ARROW;1RIGHTWARDS ARROW;1NORTH EAST ARROW;
0HEAVY BLACK-FEATHERED SOUTH EAST ARROW;2RIGHTWARDS ARROW;2NORTH EAST ARROW;
0TEARDROP-BARBED RIGHTWARDS ARROW;0HEAVY TEARDROP-SHANKED RIGHTWARDS ARROW;
0WEDGE-TAILED RIGHTWARDS ARROW;0HEAVY WEDGE-TAILED RIGHTWARDS ARROW;0OPEN-OUTLINED RIGHTWARDS ARROW;
0DOUBLE CURLY LOOP;0THREE DIMENSIONAL ANGLE;0WHITE TRIANGLE CONTAINING SMALL WHITE TRIANGLE;
0PERPENDICULAR;0OPEN SUBSET;1SUPERSET;0LEFT S-SHAPED BAG DELIMITER;0RIGHT S-SHAPED BAG DELIMITER;
0OR WITH DOT INSIDE;0REVERSE SOLIDUS PRECEDING SUBSET;0SUPERSET PRECEDING SOLIDUS;
0VERTICAL BAR WITH HORIZONTAL STROKE;0MATHEMATICAL RISING DIAGONAL;0LONG DIVISION;
0MATHEMATICAL FALLING DIAGONAL;0SQUARED LOGICAL AND;2OR;0WHITE DIAMOND WITH CENTRED DOT;
0AND WITH DOT;0ELEMENT OF OPENING UPWARDS;0LOWER RIGHT CORNER WITH DOT;0UPPER LEFT CORNER WITH DOT;
0LEFT OUTER JOIN;0RIGHT OUTER JOIN;0FULL OUTER JOIN;0LARGE UP TACK;1DOWN TACK;
0LEFT AND RIGHT DOUBLE TURNSTILE;3TACK;1MULTIMAP;0LONG RIGHT TACK;1LEFT TACK;
0UP TACK WITH CIRCLE ABOVE;0LOZENGE DIVIDED BY HORIZONTAL RULE;0WHITE CONCAVE-SIDED DIAMOND;
3WITH LEFTWARDS TICK;4RIGHTWARDS TICK;1SQUARE WITH LEFTWARDS TICK;3RIGHTWARDS TICK;
0MATHEMATICAL LEFT WHITE SQUARE BRACKET;1RIGHT WHITE SQUARE BRACKET;1LEFT ANGLE BRACKET;
1RIGHT ANGLE BRACKET;1LEFT DOUBLE ANGLE BRACKET;1RIGHT DOUBLE ANGLE BRACKET;
1LEFT WHITE TORTOISE SHELL BRACKET;1RIGHT WHITE TORTOISE SHELL BRACKET;1LEFT FLATTENED PARENTHESIS;
1RIGHT FLATTENED PARENTHESIS;0UPWARDS QUADRUPLE ARROW;0DOWNWARDS QUADRUPLE ARROW;
0ANTICLOCKWISE GAPPED CIRCLE ARROW;0CLOCKWISE GAPPED CIRCLE ARROW;0RIGHT ARROW WITH CIRCLED PLUS;
0LONG LEFTWARDS ARROW;1RIGHTWARDS ARROW;1LEFT RIGHT ARROW;1LEFTWARDS DOUBLE ARROW;
1RIGHTWARDS DOUBLE ARROW;1LEFT RIGHT DOUBLE ARROW;1LEFTWARDS ARROW FROM BAR;
1RIGHTWARDS ARROW FROM BAR;1LEFTWARDS DOUBLE ARROW FROM BAR;1RIGHTWARDS DOUBLE ARROW FROM BAR;
2SQUIGGLE ARROW;0BRAILLE PATTERN BLANK;2DOTS-1;2DOTS-2;2DOTS-12;2DOTS-3;2DOTS-13;2DOTS-23;2DOTS-123;
2DOTS-4;2DOTS-14;2DOTS-24;2DOTS-124;2DOTS-34;2DOTS-134;2DOTS-234;2DOTS-1234;2DOTS-5;2DOTS-15;
2DOTS-25;2DOTS-125;2DOTS-35;2DOTS-135;2DOTS-235;2DOTS-1235;2DOTS-45;2DOTS-145;2DOTS-245;2DOTS-1245;
2DOTS-345;2DOTS-1345;2DOTS-2345;2DOTS-12345;2DOTS-6;2DOTS-16;2DOTS-26;2DOTS-126;2DOTS-36;2DOTS-136;
2DOTS-236;2DOTS-1236;2DOTS-46;2DOTS-146;2DOTS-246;2DOTS-1246;2DOTS-346;2DOTS-1346;2DOTS-2346;
2DOTS-12346;2DOTS-56;2DOTS-156;2DOTS-256;2DOTS-1256;2DOTS-356;2DOTS-1356;2DOTS-2356;2DOTS-12356;
2DOTS-456;2DOTS-1456;2DOTS-2456;2DOTS-12456;2DOTS-3456;2DOTS-13456;2DOTS-23456;2DOTS-123456;2DOTS-7;
2DOTS-17;2DOTS-27;2DOTS-127;2DOTS-37;2DOTS-137;2DOTS-237;2DOTS-1237;2DOTS-47;2DOTS-147;2DOTS-247;
2DOTS-1247;2DOTS-347;2DOTS-1347;2DOTS-2347;2DOTS-12347;2DOTS-57;2DOTS-157;2DOTS-257;2DOTS-1257;
2DOTS-357;2DOTS-1357;2DOTS-2357;2DOTS-12357;2DOTS-457;2DOTS-1457;2DOTS-2457;2DOTS-12457;2DOTS-3457;
2DOTS-13457;2DOTS-23457;2DOTS-123457;2DOTS-67;2DOTS-167;2DOTS-267;2DOTS-1267;2DOTS-367;2DOTS-1367;
2DOTS-2367;2DOTS-12367;2DOTS-467;2DOTS-1467;2DOTS-2467;2DOTS-12467;2DOTS-3467;2DOTS-13467;
2DOTS-23467;2DOTS-123467;2DOTS-567;2DOTS-1567;2DOTS-2567;2DOTS-12567;2DOTS-3567;2DOTS-13567;
2DOTS-23567;2DOTS-123567;2DOTS-4567;2DOTS-14567;2DOTS-24567;2DOTS-124567;2DOTS-34567;2DOTS-134567;
2DOTS-234567;2DOTS-1234567;2DOTS-8;2DOTS-18;2DOTS-28;2DOTS-128;2DOTS-38;2DOTS-138;2DOTS-238;
2DOTS-1238;2DOTS-48;2DOTS-148;2DOTS-248;2DOTS-1248;2DOTS-348;2DOTS-1348;2DOTS-2348;2DOTS-12348;
2DOTS-58;2DOTS-158;2DOTS-258;2DOTS-1258;2DOTS-358;2DOTS-1358;2DOTS-2358;2DOTS-12358;2DOTS-458;
2DOTS-1458;2DOTS-2458;2DOTS-12458;2DOTS-3458;2DOTS-13458;2DOTS-23458;2DOTS-123458;2DOTS-68;
2DOTS-168;2DOTS-268;2DOTS-1268;2DOTS-368;2DOTS-1368;2DOTS-2368;2DOTS-12368;2DOTS-468;2DOTS-1468;
2DOTS-2468;2DOTS-12468;2DOTS-3468;2DOTS-13468;2DOTS-23468;2DOTS-123468;2DOTS-568;2DOTS-1568;
2DOTS-2568;2DOTS-12568;2DOTS-3568;2DOTS-13568;2DOTS-23568;2DOTS-123568;2DOTS-4568;2DOTS-14568;
2DOTS-24568;2DOTS-124568;2DOTS-34568;2DOTS-134568;2DOTS-234568;2DOTS-1234568;2DOTS-78;2DOTS-178;
2DOTS-278;2DOTS-1278;2DOTS-378;2DOTS-1378;2DOTS-2378;2DOTS-12378;2DOTS-478;2DOTS-1478;2DOTS-2478;
2DOTS-12478;2DOTS-3478;2DOTS-13478;2DOTS-23478;2DOTS-123478;2DOTS-578;2DOTS-1578;2DOTS-2578;
2DOTS-12578;2DOTS-3578;2DOTS-13578;2DOTS-23578;2DOTS-123578;2DOTS-4578;2DOTS-14578;2DOTS-24578;
2DOTS-124578;2DOTS-34578;2DOTS-134578;2DOTS-234578;2DOTS-1234578;2DOTS-678;2DOTS-1678;2DOTS-2678;
2DOTS-12678;2DOTS-3678;2DOTS-13678;2DOTS-23678;2DOTS-123678;2DOTS-4678;2DOTS-14678;2DOTS-24678;
2DOTS-124678;2DOTS-34678;2DOTS-134678;2DOTS-234678;2DOTS-1234678;2DOTS-5678;2DOTS-15678;2DOTS-25678;
2DOTS-125678;2DOTS-35678;2DOTS-135678;2DOTS-235678;2DOTS-1235678;2DOTS-45678;2DOTS-145678;
2DOTS-245678;2DOTS-1245678;2DOTS-345678;2DOTS-1345678;2DOTS-2345678;2DOTS-12345678;
0RIGHTWARDS TWO-HEADED ARROW WITH VERTICAL STROKE;4DOUBLE VERTICAL STROKE;
0LEFTWARDS DOUBLE ARROW WITH VERTICAL STROKE;0RIGHTWARDS DOUBLE ARROW WITH VERTICAL STROKE;
0LEFT RIGHT DOUBLE ARROW WITH VERTICAL STROKE;0RIGHTWARDS TWO-HEADED ARROW FROM BAR;
0LEFTWARDS DOUBLE ARROW FROM BAR;0RIGHTWARDS DOUBLE ARROW FROM BAR;
0DOWNWARDS ARROW WITH HORIZONTAL STROKE;0UPWARDS ARROW WITH HORIZONTAL STROKE;1TRIPLE ARROW;
0DOWNWARDS TRIPLE ARROW;0LEFTWARDS DOUBLE DASH ARROW;0RIGHTWARDS DOUBLE DASH ARROW;
0LEFTWARDS TRIPLE DASH ARROW;0RIGHTWARDS TRIPLE DASH ARROW;1TWO-HEADED TRIPLE DASH ARROW;
1ARROW WITH DOTTED STEM;0UPWARDS ARROW TO BAR;0DOWNWARDS ARROW TO BAR;
0RIGHTWARDS ARROW WITH TAIL WITH VERTICAL STROKE;5DOUBLE VERTICAL STROKE;
1TWO-HEADED ARROW WITH TAIL;5WITH VERTICAL STROKE;6DOUBLE VERTICAL STROKE;0LEFTWARDS ARROW-TAIL;
0RIGHTWARDS ARROW-TAIL;0LEFTWARDS DOUBLE ARROW-TAIL;0RIGHTWARDS DOUBLE ARROW-TAIL;
0LEFTWARDS ARROW TO BLACK DIAMOND;0RIGHTWARDS ARROW TO BLACK DIAMOND;
0LEFTWARDS ARROW FROM BAR TO BLACK DIAMOND;0RIGHTWARDS ARROW FROM BAR TO BLACK DIAMOND;
0NORTH WEST AND SOUTH EAST ARROW;1EAST AND SOUTH WEST ARROW;1WEST ARROW WITH HOOK;
1EAST ARROW WITH HOOK;0SOUTH EAST ARROW WITH HOOK;1WEST ARROW WITH HOOK;
0NORTH WEST ARROW AND NORTH EAST ARROW;1EAST ARROW AND SOUTH EAST ARROW;
0SOUTH EAST ARROW AND SOUTH WEST ARROW;1WEST ARROW AND NORTH WEST ARROW;
0RISING DIAGONAL CROSSING FALLING DIAGONAL;0FALLING DIAGONAL CROSSING RISING DIAGONAL;
0SOUTH EAST ARROW CROSSING NORTH EAST ARROW;0NORTH EAST ARROW CROSSING SOUTH EAST ARROW;
0FALLING DIAGONAL CROSSING NORTH EAST ARROW;0RISING DIAGONAL CROSSING SOUTH EAST ARROW;
0NORTH EAST ARROW CROSSING NORTH WEST ARROW;1WEST ARROW CROSSING NORTH EAST ARROW;
0WAVE ARROW POINTING DIRECTLY RIGHT;0ARROW POINTING RIGHTWARDS THEN CURVING UPWARDS;5DOWNWARDS;
2DOWNWARDS THEN CURVING LEFTWARDS;5RIGHTWARDS;0RIGHT-SIDE ARC CLOCKWISE ARROW;
0LEFT-SIDE ARC ANTICLOCKWISE ARROW;0TOP ARC ANTICLOCKWISE ARROW;0BOTTOM ARC ANTICLOCKWISE ARROW;
0TOP ARC CLOCKWISE ARROW WITH MINUS;2ANTICLOCKWISE ARROW WITH PLUS;
0LOWER RIGHT SEMICIRCULAR CLOCKWISE ARROW;1LEFT SEMICIRCULAR ANTICLOCKWISE ARROW;
0ANTICLOCKWISE CLOSED CIRCLE ARROW;0CLOCKWISE CLOSED CIRCLE ARROW;
0RIGHTWARDS ARROW ABOVE SHORT LEFTWARDS ARROW;0LEFTWARDS ARROW ABOVE SHORT RIGHTWARDS ARROW;
0SHORT RIGHTWARDS ARROW ABOVE LEFTWARDS ARROW;0RIGHTWARDS ARROW WITH PLUS BELOW;
0LEFTWARDS ARROW WITH PLUS BELOW;0RIGHTWARDS ARROW THROUGH X;0LEFT RIGHT ARROW THROUGH SMALL CIRCLE;
0UPWARDS TWO-HEADED ARROW FROM SMALL CIRCLE;0LEFT BARB UP RIGHT BARB DOWN HARPOON;
2DOWN RIGHT BARB UP HARPOON;0UP BARB RIGHT DOWN BARB LEFT HARPOON;2LEFT DOWN BARB RIGHT HARPOON;
0LEFT BARB UP RIGHT BARB UP HARPOON;0UP BARB RIGHT DOWN BARB RIGHT HARPOON;
0LEFT BARB DOWN RIGHT BARB DOWN HARPOON;0UP BARB LEFT DOWN BARB LEFT HARPOON;
0LEFTWARDS HARPOON WITH BARB UP TO BAR;0RIGHTWARDS HARPOON WITH BARB UP TO BAR;
0UPWARDS HARPOON WITH BARB RIGHT TO BAR;0DOWNWARDS HARPOON WITH BARB RIGHT TO BAR;
0LEFTWARDS HARPOON WITH BARB DOWN TO BAR;0RIGHTWARDS HARPOON WITH BARB DOWN TO BAR;
0UPWARDS HARPOON WITH BARB LEFT TO BAR;0DOWNWARDS HARPOON WITH BARB LEFT TO BAR;
0LEFTWARDS HARPOON WITH BARB UP FROM BAR;0RIGHTWARDS HARPOON WITH BARB UP FROM BAR;
0UPWARDS HARPOON WITH BARB RIGHT FROM BAR;0DOWNWARDS HARPOON WITH BARB RIGHT FROM BAR;
0LEFTWARDS HARPOON WITH BARB DOWN FROM BAR;0RIGHTWARDS HARPOON WITH BARB DOWN FROM BAR;
0UPWARDS HARPOON WITH BARB LEFT FROM BAR;0DOWNWARDS HARPOON WITH BARB LEFT FROM BAR;
0LEFTWARDS HARPOON WITH BARB UP ABOVE LEFTWARDS HARPOON WITH BARB DOWN;
0UPWARDS HARPOON WITH BARB LEFT BESIDE UPWARDS HARPOON WITH BARB RIGHT;
0RIGHTWARDS HARPOON WITH BARB UP ABOVE RIGHTWARDS HARPOON WITH BARB DOWN;
0DOWNWARDS HARPOON WITH BARB LEFT BESIDE DOWNWARDS HARPOON WITH BARB RIGHT;
0LEFTWARDS HARPOON WITH BARB UP ABOVE RIGHTWARDS HARPOON WITH BARB UP;
4DOWN ABOVE RIGHTWARDS HARPOON WITH BARB DOWN;
0RIGHTWARDS HARPOON WITH BARB UP ABOVE LEFTWARDS HARPOON WITH BARB UP;
4DOWN ABOVE LEFTWARDS HARPOON WITH BARB DOWN;0LEFTWARDS HARPOON WITH BARB UP ABOVE LONG DASH;
4DOWN BELOW LONG DASH;0RIGHTWARDS HARPOON WITH BARB UP ABOVE LONG DASH;4DOWN BELOW LONG DASH;
0UPWARDS HARPOON WITH BARB LEFT BESIDE DOWNWARDS HARPOON WITH BARB RIGHT;
0DOWNWARDS HARPOON WITH BARB LEFT BESIDE UPWARDS HARPOON WITH BARB RIGHT;
0RIGHT DOUBLE ARROW WITH ROUNDED HEAD;0EQUALS SIGN ABOVE RIGHTWARDS ARROW;
0TILDE OPERATOR ABOVE RIGHTWARDS ARROW;0LEFTWARDS ARROW ABOVE TILDE OPERATOR;
0RIGHTWARDS ARROW ABOVE TILDE OPERATOR;3ALMOST EQUAL TO;0LESS-THAN ABOVE LEFTWARDS ARROW;
0LEFTWARDS ARROW THROUGH LESS-THAN;0GREATER-THAN ABOVE RIGHTWARDS ARROW;
0SUBSET ABOVE RIGHTWARDS ARROW;0LEFTWARDS ARROW THROUGH SUBSET;0SUPERSET ABOVE LEFTWARDS ARROW;
0LEFT FISH TAIL;0RIGHT FISH TAIL;0UP FISH TAIL;0DOWN FISH TAIL;0TRIPLE VERTICAL BAR DELIMITER;
0Z NOTATION SPOT;2TYPE COLON;0LEFT WHITE CURLY BRACKET;0RIGHT WHITE CURLY BRACKET;
0LEFT WHITE PARENTHESIS;0RIGHT WHITE PARENTHESIS;0Z NOTATION LEFT IMAGE BRACKET;
2RIGHT IMAGE BRACKET;2LEFT BINDING BRACKET;2RIGHT BINDING BRACKET;
0LEFT SQUARE BRACKET WITH UNDERBAR;0RIGHT SQUARE BRACKET WITH UNDERBAR;
0LEFT SQUARE BRACKET WITH TICK IN TOP CORNER;0RIGHT SQUARE BRACKET WITH TICK IN BOTTOM CORNER;
0LEFT SQUARE BRACKET WITH TICK IN BOTTOM CORNER;0RIGHT SQUARE BRACKET WITH TICK IN TOP CORNER;
0LEFT ANGLE BRACKET WITH DOT;0RIGHT ANGLE BRACKET WITH DOT;0LEFT ARC LESS-THAN BRACKET;
0RIGHT ARC GREATER-THAN BRACKET;0DOUBLE LEFT ARC GREATER-THAN BRACKET;1RIGHT ARC LESS-THAN BRACKET;
0LEFT BLACK TORTOISE SHELL BRACKET;0RIGHT BLACK TORTOISE SHELL BRACKET;0DOTTED FENCE;
0VERTICAL ZIGZAG LINE;0MEASURED ANGLE OPENING LEFT;0RIGHT ANGLE VARIANT WITH SQUARE;
0MEASURED RIGHT ANGLE WITH DOT;0ANGLE WITH S INSIDE;0ACUTE ANGLE;0SPHERICAL ANGLE OPENING LEFT;3UP;
0TURNED ANGLE;0REVERSED ANGLE;0ANGLE WITH UNDERBAR;0REVERSED ANGLE WITH UNDERBAR;
0OBLIQUE ANGLE OPENING UP;3DOWN;0MEASURED ANGLE WITH OPEN ARM ENDING IN ARROW POINTING UP AND RIGHT;
9UP AND LEFT;9DOWN AND RIGHT;9DOWN AND LEFT;9RIGHT AND UP;9LEFT AND UP;9RIGHT AND DOWN;
9LEFT AND DOWN;0REVERSED EMPTY SET;0EMPTY SET WITH OVERBAR;3SMALL CIRCLE ABOVE;3RIGHT ARROW ABOVE;
3LEFT ARROW ABOVE;0CIRCLE WITH HORIZONTAL BAR;0CIRCLED VERTICAL BAR;1PARALLEL;1REVERSE SOLIDUS;
1PERPENDICULAR;0CIRCLE DIVIDED BY HORIZONTAL BAR AND TOP HALF DIVIDED BY VERTICAL BAR;
1WITH SUPERIMPOSED X;0CIRCLED ANTICLOCKWISE-ROTATED DIVISION SIGN;0UP ARROW THROUGH CIRCLE;
0CIRCLED WHITE BULLET;1BULLET;1LESS-THAN;1GREATER-THAN;0CIRCLE WITH SMALL CIRCLE TO THE RIGHT;
2TWO HORIZONTAL STROKES TO THE RIGHT;0SQUARED RISING DIAGONAL SLASH;1FALLING DIAGONAL SLASH;
1ASTERISK;1SMALL CIRCLE;1SQUARE;0TWO JOINED SQUARES;0TRIANGLE WITH DOT ABOVE;2UNDERBAR;
0S IN TRIANGLE;0TRIANGLE WITH SERIFS AT BOTTOM;0RIGHT TRIANGLE ABOVE LEFT TRIANGLE;
0LEFT TRIANGLE BESIDE VERTICAL BAR;0VERTICAL BAR BESIDE RIGHT TRIANGLE;0BOWTIE WITH LEFT HALF BLACK;
2RIGHT HALF BLACK;0BLACK BOWTIE;0TIMES WITH LEFT HALF BLACK;2RIGHT HALF BLACK;0WHITE HOURGLASS;
0BLACK HOURGLASS;0LEFT WIGGLY FENCE;0RIGHT WIGGLY FENCE;0LEFT DOUBLE WIGGLY FENCE;
0RIGHT DOUBLE WIGGLY FENCE;0INCOMPLETE INFINITY;0TIE OVER INFINITY;
0INFINITY NEGATED WITH VERTICAL BAR;0DOUBLE-ENDED MULTIMAP;0SQUARE WITH CONTOURED OUTLINE;
0INCREASES AS;0SHUFFLE PRODUCT;0EQUALS SIGN AND SLANTED PARALLEL;5WITH TILDE ABOVE;
0IDENTICAL TO AND SLANTED PARALLEL;0GLEICH STARK;0THERMODYNAMIC;
0DOWN-POINTING TRIANGLE WITH LEFT HALF BLACK;3RIGHT HALF BLACK;0BLACK DIAMOND WITH DOWN ARROW;
1LOZENGE;0WHITE CIRCLE WITH DOWN ARROW;0BLACK CIRCLE WITH DOWN ARROW;0ERROR-BARRED WHITE SQUARE;
1BLACK SQUARE;1WHITE DIAMOND;1BLACK DIAMOND;1WHITE CIRCLE;1BLACK CIRCLE;0RULE-DELAYED;
0REVERSE SOLIDUS OPERATOR;0SOLIDUS WITH OVERBAR;0REVERSE SOLIDUS WITH HORIZONTAL STROKE;
0BIG SOLIDUS;1REVERSE SOLIDUS;0DOUBLE PLUS;0TRIPLE PLUS;0LEFT-POINTING CURVED ANGLE BRACKET;
0RIGHT-POINTING CURVED ANGLE BRACKET;0TINY;0MINY;0N-ARY CIRCLED DOT OPERATOR;2PLUS OPERATOR;
2TIMES OPERATOR;1UNION OPERATOR WITH DOT;4PLUS;1SQUARE INTERSECTION OPERATOR;2UNION OPERATOR;
0TWO LOGICAL AND OPERATOR;2OR OPERATOR;0N-ARY TIMES OPERATOR;0MODULO TWO SUM;
0SUMMATION WITH INTEGRAL;0QUADRUPLE INTEGRAL OPERATOR;0FINITE PART INTEGRAL;
0INTEGRAL WITH DOUBLE STROKE;1AVERAGE WITH SLASH;0CIRCULATION FUNCTION;0ANTICLOCKWISE INTEGRATION;
0LINE INTEGRATION WITH RECTANGULAR PATH AROUND POLE;3SEMICIRCULAR PATH AROUND POLE;
2NOT INCLUDING THE POLE;0INTEGRAL AROUND A POINT OPERATOR;0QUATERNION INTEGRAL OPERATOR;
0INTEGRAL WITH LEFTWARDS ARROW WITH HOOK;2TIMES SIGN;2INTERSECTION;2UNION;2OVERBAR;2UNDERBAR;0JOIN;
0LARGE LEFT TRIANGLE OPERATOR;0Z NOTATION SCHEMA COMPOSITION;3PIPING;3PROJECTION;
0PLUS SIGN WITH SMALL CIRCLE ABOVE;3CIRCUMFLEX ACCENT ABOVE;3TILDE ABOVE;3DOT BELOW;3TILDE BELOW;
3SUBSCRIPT TWO;3BLACK TRIANGLE;0MINUS SIGN WITH COMMA ABOVE;3DOT BELOW;3FALLING DOTS;3RISING DOTS;
0PLUS SIGN IN LEFT HALF CIRCLE;3RIGHT HALF CIRCLE;0VECTOR OR CROSS PRODUCT;
0MULTIPLICATION SIGN WITH DOT ABOVE;3UNDERBAR;0SEMIDIRECT PRODUCT WITH BOTTOM CLOSED;0SMASH PRODUCT;
0MULTIPLICATION SIGN IN LEFT HALF CIRCLE;3RIGHT HALF CIRCLE;
0CIRCLED MULTIPLICATION SIGN WITH CIRCUMFLEX ACCENT;0MULTIPLICATION SIGN IN DOUBLE CIRCLE;
0CIRCLED DIVISION SIGN;0PLUS SIGN IN TRIANGLE;0MINUS SIGN IN TRIANGLE;
0MULTIPLICATION SIGN IN TRIANGLE;0INTERIOR PRODUCT;0RIGHTHAND INTERIOR PRODUCT;
0Z NOTATION RELATIONAL COMPOSITION;0AMALGAMATION OR COPRODUCT;0INTERSECTION WITH DOT;
0UNION WITH MINUS SIGN;2OVERBAR;0INTERSECTION WITH OVERBAR;2LOGICAL AND;0UNION WITH LOGICAL OR;
1ABOVE INTERSECTION;0INTERSECTION ABOVE UNION;0UNION ABOVE BAR ABOVE INTERSECTION;
0INTERSECTION ABOVE BAR ABOVE UNION;0UNION BESIDE AND JOINED WITH UNION;
0INTERSECTION BESIDE AND JOINED WITH INTERSECTION;0CLOSED UNION WITH SERIFS;
1INTERSECTION WITH SERIFS;0DOUBLE SQUARE INTERSECTION;2UNION;
0CLOSED UNION WITH SERIFS AND SMASH PRODUCT;0LOGICAL AND WITH DOT ABOVE;1OR WITH DOT ABOVE;
0DOUBLE LOGICAL AND;2OR;0TWO INTERSECTING LOGICAL AND;3OR;0SLOPING LARGE OR;2AND;
0LOGICAL OR OVERLAPPING LOGICAL AND;1AND WITH MIDDLE STEM;1OR WITH MIDDLE STEM;
1AND WITH HORIZONTAL DASH;1OR WITH HORIZONTAL DASH;1AND WITH DOUBLE OVERBAR;3UNDERBAR;
3DOUBLE UNDERBAR;0SMALL VEE WITH UNDERBAR;0LOGICAL OR WITH DOUBLE OVERBAR;4UNDERBAR;
0Z NOTATION DOMAIN ANTIRESTRICTION;2RANGE ANTIRESTRICTION;0EQUALS SIGN WITH DOT BELOW;
0IDENTICAL WITH DOT ABOVE;0TRIPLE HORIZONTAL BAR WITH DOUBLE VERTICAL STROKE;
4TRIPLE VERTICAL STROKE;0TILDE OPERATOR WITH DOT ABOVE;3RISING DOTS;0SIMILAR MINUS SIMILAR;
0CONGRUENT WITH DOT ABOVE;0EQUALS WITH ASTERISK;0ALMOST EQUAL TO WITH CIRCUMFLEX ACCENT;
0APPROXIMATELY EQUAL OR EQUAL TO;0EQUALS SIGN ABOVE PLUS SIGN;0PLUS SIGN ABOVE EQUALS SIGN;
0EQUALS SIGN ABOVE TILDE OPERATOR;0DOUBLE COLON EQUAL;0TWO CONSECUTIVE EQUALS SIGNS;
0THREE CONSECUTIVE EQUALS SIGNS;0EQUALS SIGN WITH TWO DOTS ABOVE AND TWO DOTS BELOW;
0EQUIVALENT WITH FOUR DOTS ABOVE;0LESS-THAN WITH CIRCLE INSIDE;0GREATER-THAN WITH CIRCLE INSIDE;
0LESS-THAN WITH QUESTION MARK ABOVE;0GREATER-THAN WITH QUESTION MARK ABOVE;
0LESS-THAN OR SLANTED EQUAL TO;0GREATER-THAN OR SLANTED EQUAL TO;
0LESS-THAN OR SLANTED EQUAL TO WITH DOT INSIDE;0GREATER-THAN OR SLANTED EQUAL TO WITH DOT INSIDE;
0LESS-THAN OR SLANTED EQUAL TO WITH DOT ABOVE;0GREATER-THAN OR SLANTED EQUAL TO WITH DOT ABOVE;
0LESS-THAN OR SLANTED EQUAL TO WITH DOT ABOVE RIGHT;
0GREATER-THAN OR SLANTED EQUAL TO WITH DOT ABOVE LEFT;0LESS-THAN OR APPROXIMATE;
0GREATER-THAN OR APPROXIMATE;0LESS-THAN AND SINGLE-LINE NOT EQUAL TO;
0GREATER-THAN AND SINGLE-LINE NOT EQUAL TO;0LESS-THAN AND NOT APPROXIMATE;
0GREATER-THAN AND NOT APPROXIMATE;0LESS-THAN ABOVE DOUBLE-LINE EQUAL ABOVE GREATER-THAN;
0GREATER-THAN ABOVE DOUBLE-LINE EQUAL ABOVE LESS-THAN;0LESS-THAN ABOVE SIMILAR OR EQUAL;
0GREATER-THAN ABOVE SIMILAR OR EQUAL;0LESS-THAN ABOVE SIMILAR ABOVE GREATER-THAN;
0GREATER-THAN ABOVE SIMILAR ABOVE LESS-THAN;0LESS-THAN ABOVE GREATER-THAN ABOVE DOUBLE-LINE EQUAL;
0GREATER-THAN ABOVE LESS-THAN ABOVE DOUBLE-LINE EQUAL;
0LESS-THAN ABOVE SLANTED EQUAL ABOVE GREATER-THAN ABOVE SLANTED EQUAL;
0GREATER-THAN ABOVE SLANTED EQUAL ABOVE LESS-THAN ABOVE SLANTED EQUAL;
0SLANTED EQUAL TO OR LESS-THAN;4GREATER-THAN;4LESS-THAN WITH DOT INSIDE;
4GREATER-THAN WITH DOT INSIDE;0DOUBLE-LINE EQUAL TO OR LESS-THAN;4GREATER-THAN;
1SLANTED EQUAL TO OR LESS-THAN;5GREATER-THAN;0SIMILAR OR LESS-THAN;2GREATER-THAN;
1ABOVE LESS-THAN ABOVE EQUALS SIGN;2GREATER-THAN ABOVE EQUALS SIGN;0DOUBLE NESTED LESS-THAN;
2GREATER-THAN;2LESS-THAN WITH UNDERBAR;0GREATER-THAN OVERLAPPING LESS-THAN;1BESIDE LESS-THAN;
0LESS-THAN CLOSED BY CURVE;0GREATER-THAN CLOSED BY CURVE;
0LESS-THAN CLOSED BY CURVE ABOVE SLANTED EQUAL;0GREATER-THAN CLOSED BY CURVE ABOVE SLANTED EQUAL;
0SMALLER THAN;0LARGER THAN;0SMALLER THAN OR EQUAL TO;0LARGER THAN OR EQUAL TO;
0EQUALS SIGN WITH BUMPY ABOVE;0PRECEDES ABOVE SINGLE-LINE EQUALS SIGN;
0SUCCEEDS ABOVE SINGLE-LINE EQUALS SIGN;0PRECEDES ABOVE SINGLE-LINE NOT EQUAL TO;
0SUCCEEDS ABOVE SINGLE-LINE NOT EQUAL TO;0PRECEDES ABOVE EQUALS SIGN;0SUCCEEDS ABOVE EQUALS SIGN;
0PRECEDES ABOVE NOT EQUAL TO;0SUCCEEDS ABOVE NOT EQUAL TO;0PRECEDES ABOVE ALMOST EQUAL TO;
0SUCCEEDS ABOVE ALMOST EQUAL TO;0PRECEDES ABOVE NOT ALMOST EQUAL TO;
0SUCCEEDS ABOVE NOT ALMOST EQUAL TO;0DOUBLE PRECEDES;1SUCCEEDS;0SUBSET WITH DOT;0SUPERSET WITH DOT;
0SUBSET WITH PLUS SIGN BELOW;0SUPERSET WITH PLUS SIGN BELOW;0SUBSET WITH MULTIPLICATION SIGN BELOW;
0SUPERSET WITH MULTIPLICATION SIGN BELOW;0SUBSET OF OR EQUAL TO WITH DOT ABOVE;
0SUPERSET OF OR EQUAL TO WITH DOT ABOVE;0SUBSET OF ABOVE EQUALS SIGN;0SUPERSET OF ABOVE EQUALS SIGN;
0SUBSET OF ABOVE TILDE OPERATOR;0SUPERSET OF ABOVE TILDE OPERATOR;0SUBSET OF ABOVE ALMOST EQUAL TO;
0SUPERSET OF ABOVE ALMOST EQUAL TO;0SUBSET OF ABOVE NOT EQUAL TO;0SUPERSET OF ABOVE NOT EQUAL TO;
0SQUARE LEFT OPEN BOX OPERATOR;1RIGHT OPEN BOX OPERATOR;0CLOSED SUBSET;1SUPERSET;
1SUBSET OR EQUAL TO;1SUPERSET OR EQUAL TO;0SUBSET ABOVE SUPERSET;0SUPERSET ABOVE SUBSET;
0SUBSET ABOVE SUBSET;0SUPERSET ABOVE SUPERSET;1BESIDE SUBSET;2AND JOINED BY DASH WITH SUBSET;
0ELEMENT OF OPENING DOWNWARDS;0PITCHFORK WITH TEE TOP;0TRANSVERSAL INTERSECTION;0FORKING;
0NONFORKING;0SHORT LEFT TACK;1DOWN TACK;1UP TACK;0PERPENDICULAR WITH S;
0VERTICAL BAR TRIPLE RIGHT TURNSTILE;0DOUBLE VERTICAL BAR LEFT TURNSTILE;
0VERTICAL BAR DOUBLE LEFT TURNSTILE;0DOUBLE VERTICAL BAR DOUBLE LEFT TURNSTILE;
0LONG DASH FROM LEFT MEMBER OF DOUBLE VERTICAL;0SHORT DOWN TACK WITH OVERBAR;1UP TACK WITH UNDERBAR;
3ABOVE SHORT DOWN TACK;0DOUBLE DOWN TACK;1UP TACK;1STROKE NOT SIGN;0REVERSED DOUBLE STROKE NOT SIGN;
0DOES NOT DIVIDE WITH REVERSED NEGATION SLASH;0VERTICAL LINE WITH CIRCLE ABOVE;4BELOW;
0DOWN TACK WITH CIRCLE BELOW;0PARALLEL WITH HORIZONTAL STROKE;2TILDE OPERATOR;
0TRIPLE VERTICAL BAR BINARY RELATION;3WITH HORIZONTAL STROKE;1COLON OPERATOR;1NESTED LESS-THAN;
2GREATER-THAN;0DOUBLE-LINE SLANTED LESS-THAN OR EQUAL TO;2GREATER-THAN OR EQUAL TO;
0TRIPLE SOLIDUS BINARY RELATION;0LARGE TRIPLE VERTICAL BAR OPERATOR;0DOUBLE SOLIDUS OPERATOR;
0WHITE VERTICAL BAR;0N-ARY WHITE VERTICAL BAR;0NORTH EAST WHITE ARROW;1WEST WHITE ARROW;
0SOUTH EAST WHITE ARROW;1WEST WHITE ARROW;0LEFT RIGHT WHITE ARROW;0LEFTWARDS BLACK ARROW;
0UPWARDS BLACK ARROW;0DOWNWARDS BLACK ARROW;0NORTH EAST BLACK ARROW;1WEST BLACK ARROW;
0SOUTH EAST BLACK ARROW;1WEST BLACK ARROW;0LEFT RIGHT BLACK ARROW;0UP DOWN BLACK ARROW;
0RIGHTWARDS ARROW WITH TIP DOWNWARDS;4UPWARDS;0LEFTWARDS ARROW WITH TIP DOWNWARDS;4UPWARDS;
0SQUARE WITH TOP HALF BLACK;2BOTTOM HALF BLACK;2UPPER RIGHT DIAGONAL HALF BLACK;
2LOWER LEFT DIAGONAL HALF BLACK;0DIAMOND WITH LEFT HALF BLACK;2RIGHT HALF BLACK;2TOP HALF BLACK;
2BOTTOM HALF BLACK;0DOTTED SQUARE;0BLACK LARGE SQUARE;0WHITE LARGE SQUARE;0BLACK VERY SMALL SQUARE;
0WHITE VERY SMALL SQUARE;0BLACK PENTAGON;0WHITE PENTAGON;1HEXAGON;0BLACK HEXAGON;
0HORIZONTAL BLACK HEXAGON;0BLACK LARGE CIRCLE;1MEDIUM DIAMOND;0WHITE MEDIUM DIAMOND;
0BLACK MEDIUM LOZENGE;0WHITE MEDIUM LOZENGE;0BLACK SMALL DIAMOND;2LOZENGE;0WHITE SMALL LOZENGE;
0BLACK HORIZONTAL ELLIPSE;0WHITE HORIZONTAL ELLIPSE;0BLACK VERTICAL ELLIPSE;0WHITE VERTICAL ELLIPSE;
0LEFT ARROW WITH SMALL CIRCLE;0THREE LEFTWARDS ARROWS;0LEFT ARROW WITH CIRCLED PLUS;
0LONG LEFTWARDS SQUIGGLE ARROW;0LEFTWARDS TWO-HEADED ARROW WITH VERTICAL STROKE;
4DOUBLE VERTICAL STROKE;3FROM BAR;2TRIPLE DASH ARROW;1ARROW WITH DOTTED STEM;
3TAIL WITH VERTICAL STROKE;5DOUBLE VERTICAL STROKE;1TWO-HEADED ARROW WITH TAIL;
5WITH VERTICAL STROKE;6DOUBLE VERTICAL STROKE;1ARROW THROUGH X;0WAVE ARROW POINTING DIRECTLY LEFT;
0EQUALS SIGN ABOVE LEFTWARDS ARROW;0REVERSE TILDE OPERATOR ABOVE LEFTWARDS ARROW;
0LEFTWARDS ARROW ABOVE REVERSE ALMOST EQUAL TO;0RIGHTWARDS ARROW THROUGH GREATER-THAN;3SUPERSET;
0LEFTWARDS QUADRUPLE ARROW;0RIGHTWARDS QUADRUPLE ARROW;
0REVERSE TILDE OPERATOR ABOVE RIGHTWARDS ARROW;0RIGHTWARDS ARROW ABOVE REVERSE ALMOST EQUAL TO;
0TILDE OPERATOR ABOVE LEFTWARDS ARROW;0LEFTWARDS ARROW ABOVE ALMOST EQUAL TO;
3REVERSE TILDE OPERATOR;0RIGHTWARDS ARROW ABOVE REVERSE TILDE OPERATOR;
0DOWNWARDS TRIANGLE-HEADED ZIGZAG ARROW;0SHORT SLANTED NORTH ARROW;1BACKSLANTED SOUTH ARROW;
0WHITE MEDIUM STAR;0BLACK SMALL STAR;0WHITE SMALL STAR;0BLACK RIGHT-POINTING PENTAGON;
0WHITE RIGHT-POINTING PENTAGON;0HEAVY LARGE CIRCLE;1OVAL WITH OVAL INSIDE;
1CIRCLE WITH CIRCLE INSIDE;1CIRCLE;1CIRCLED SALTIRE;0SLANTED NORTH ARROW WITH HOOKED HEAD;
0BACKSLANTED SOUTH ARROW WITH HOOKED TAIL;0SLANTED NORTH ARROW WITH HORIZONTAL TAIL;
0BACKSLANTED SOUTH ARROW WITH HORIZONTAL TAIL;0BENT ARROW POINTING DOWNWARDS THEN NORTH EAST;
0SHORT BENT ARROW POINTING DOWNWARDS THEN NORTH EAST;0LEFTWARDS TRIANGLE-HEADED ARROW;
0UPWARDS TRIANGLE-HEADED ARROW;0RIGHTWARDS TRIANGLE-HEADED ARROW;0DOWNWARDS TRIANGLE-HEADED ARROW;
0LEFT RIGHT TRIANGLE-HEADED ARROW;0UP DOWN TRIANGLE-HEADED ARROW;0NORTH WEST TRIANGLE-HEADED ARROW;
1EAST TRIANGLE-HEADED ARROW;0SOUTH EAST TRIANGLE-HEADED ARROW;1WEST TRIANGLE-HEADED ARROW;
0LEFTWARDS TRIANGLE-HEADED DASHED ARROW;0UPWARDS TRIANGLE-HEADED DASHED ARROW;
0RIGHTWARDS TRIANGLE-HEADED DASHED ARROW;0DOWNWARDS TRIANGLE-HEADED DASHED ARROW;
0CLOCKWISE TRIANGLE-HEADED OPEN CIRCLE ARROW;0ANTICLOCKWISE TRIANGLE-HEADED OPEN CIRCLE ARROW;
0LEFTWARDS TRIANGLE-HEADED ARROW TO BAR;0UPWARDS TRIANGLE-HEADED ARROW TO BAR;
0RIGHTWARDS TRIANGLE-HEADED ARROW TO BAR;0DOWNWARDS TRIANGLE-HEADED ARROW TO BAR;=2B76;
0NORTH WEST TRIANGLE-HEADED ARROW TO BAR;1EAST TRIANGLE-HEADED ARROW TO BAR;
0SOUTH EAST TRIANGLE-HEADED ARROW TO BAR;1WEST TRIANGLE-HEADED ARROW TO BAR;
0LEFTWARDS TRIANGLE-HEADED ARROW WITH DOUBLE HORIZONTAL STROKE;
0UPWARDS TRIANGLE-HEADED ARROW WITH DOUBLE HORIZONTAL STROKE;
0RIGHTWARDS TRIANGLE-HEADED ARROW WITH DOUBLE HORIZONTAL STROKE;
0DOWNWARDS TRIANGLE-HEADED ARROW WITH DOUBLE HORIZONTAL STROKE;0HORIZONTAL TAB KEY;
0VERTICAL TAB KEY;0LEFTWARDS TRIANGLE-HEADED ARROW OVER RIGHTWARDS TRIANGLE-HEADED ARROW;
0UPWARDS TRIANGLE-HEADED ARROW LEFTWARDS OF DOWNWARDS TRIANGLE-HEADED ARROW;
0RIGHTWARDS TRIANGLE-HEADED ARROW OVER LEFTWARDS TRIANGLE-HEADED ARROW;
0DOWNWARDS TRIANGLE-HEADED ARROW LEFTWARDS OF UPWARDS TRIANGLE-HEADED ARROW;
0LEFTWARDS TRIANGLE-HEADED PAIRED ARROWS;0UPWARDS TRIANGLE-HEADED PAIRED ARROWS;
0RIGHTWARDS TRIANGLE-HEADED PAIRED ARROWS;0DOWNWARDS TRIANGLE-HEADED PAIRED ARROWS;
0LEFTWARDS BLACK CIRCLED WHITE ARROW;0UPWARDS BLACK CIRCLED WHITE ARROW;
0RIGHTWARDS BLACK CIRCLED WHITE ARROW;0DOWNWARDS BLACK CIRCLED WHITE ARROW;
0ANTICLOCKWISE TRIANGLE-HEADED RIGHT U-SHAPED ARROW;2BOTTOM U-SHAPED ARROW;2LEFT U-SHAPED ARROW;
2TOP U-SHAPED ARROW;0RETURN LEFT;1RIGHT;0NEWLINE LEFT;1RIGHT;
0FOUR CORNER ARROWS CIRCLING ANTICLOCKWISE;0RIGHTWARDS BLACK ARROW;=2B97;
0SYMBOL FOR TYPE A ELECTRONICS;0THREE-D TOP-LIGHTED LEFTWARDS EQUILATERAL ARROWHEAD;
1RIGHT-LIGHTED UPWARDS EQUILATERAL ARROWHEAD;1TOP-LIGHTED RIGHTWARDS EQUILATERAL ARROWHEAD;
1LEFT-LIGHTED DOWNWARDS EQUILATERAL ARROWHEAD;0BLACK LEFTWARDS EQUILATERAL ARROWHEAD;
1UPWARDS EQUILATERAL ARROWHEAD;1RIGHTWARDS EQUILATERAL ARROWHEAD;1DOWNWARDS EQUILATERAL ARROWHEAD;
0DOWNWARDS TRIANGLE-HEADED ARROW WITH LONG TIP LEFTWARDS;6RIGHTWARDS;
0UPWARDS TRIANGLE-HEADED ARROW WITH LONG TIP LEFTWARDS;6RIGHTWARDS;
0LEFTWARDS TRIANGLE-HEADED ARROW WITH LONG TIP UPWARDS;
0RIGHTWARDS TRIANGLE-HEADED ARROW WITH LONG TIP UPWARDS;
0LEFTWARDS TRIANGLE-HEADED ARROW WITH LONG TIP DOWNWARDS;
0RIGHTWARDS TRIANGLE-HEADED ARROW WITH LONG TIP DOWNWARDS;
0BLACK CURVED DOWNWARDS AND LEFTWARDS ARROW;4RIGHTWARDS ARROW;2UPWARDS AND LEFTWARDS ARROW;
4RIGHTWARDS ARROW;2LEFTWARDS AND UPWARDS ARROW;2RIGHTWARDS AND UPWARDS ARROW;
2LEFTWARDS AND DOWNWARDS ARROW;2RIGHTWARDS AND DOWNWARDS ARROW;0RIBBON ARROW DOWN LEFT;3RIGHT;
2UP LEFT;3RIGHT;2LEFT UP;2RIGHT UP;2LEFT DOWN;2RIGHT DOWN;
0UPWARDS WHITE ARROW FROM BAR WITH HORIZONTAL BAR;0UP ARROWHEAD IN A RECTANGLE BOX;
0OVERLAPPING WHITE SQUARES;2AND BLACK SQUARES;1BLACK SQUARES;0BALLOT BOX WITH LIGHT X;0CIRCLED X;
1BOLD X;0BLACK SQUARE CENTRED;1DIAMOND CENTRED;0TURNED BLACK PENTAGON;0HORIZONTAL BLACK OCTAGON;
0BLACK OCTAGON;1MEDIUM UP-POINTING TRIANGLE CENTRED;2DOWN-POINTING TRIANGLE CENTRED;
2LEFT-POINTING TRIANGLE CENTRED;2RIGHT-POINTING TRIANGLE CENTRED;0NEPTUNE FORM TWO;
0TOP HALF BLACK CIRCLE;0BOTTOM HALF BLACK CIRCLE;0LIGHT FOUR POINTED BLACK CUSP;
0ROTATED LIGHT FOUR POINTED BLACK CUSP;0WHITE FOUR POINTED CUSP;0ROTATED WHITE FOUR POINTED CUSP;
0SQUARE POSITION INDICATOR;0UNCERTAINTY SIGN;0GROUP MARK;0PLUTO FORM TWO;2THREE;2FOUR;2FIVE;
0TRANSPLUTO;0PROSERPINA;0ASTRAEA;0HYGIEA;0PHOLUS;0NESSUS;0WHITE MOON SELENA;0BLACK DIAMOND ON CROSS;
0TRUE LIGHT MOON ARTA;0CUPIDO;0HADES;0ZEUS;0KRONOS;0APOLLON;0ADMETOS;0VULCANUS;0POSEIDON;
0LEFT HALF BLACK STAR;0RIGHT HALF BLACK STAR;0STAR WITH LEFT HALF BLACK;2RIGHT HALF BLACK;
0LEFTWARDS TWO-HEADED ARROW WITH TRIANGLE ARROWHEADS;
0UPWARDS TWO-HEADED ARROW WITH TRIANGLE ARROWHEADS;
0RIGHTWARDS TWO-HEADED ARROW WITH TRIANGLE ARROWHEADS;
0DOWNWARDS TWO-HEADED ARROW WITH TRIANGLE ARROWHEADS;0ERIS FORM ONE;2TWO;0SEDNA;
0RUSSIAN ASTROLOGICAL SYMBOL VIGINTILE;3NOVILE;3QUINTILE;3BINOVILE;3SENTAGON;3TREDECILE;
0EQUALS SIGN WITH INFINITY BELOW;0UNITED SYMBOL;0SEPARATED SYMBOL;0DOUBLED SYMBOL;0PASSED SYMBOL;
0REVERSED RIGHT ANGLE;0HELLSCHREIBER PAUSE SYMBOL;=2E00;0RIGHT ANGLE SUBSTITUTION MARKER;
2DOTTED SUBSTITUTION MARKER;0LEFT SUBSTITUTION BRACKET;0RIGHT SUBSTITUTION BRACKET;
0LEFT DOTTED SUBSTITUTION BRACKET;0RIGHT DOTTED SUBSTITUTION BRACKET;0RAISED INTERPOLATION MARKER;
1DOTTED INTERPOLATION MARKER;0DOTTED TRANSPOSITION MARKER;0LEFT TRANSPOSITION BRACKET;
0RIGHT TRANSPOSITION BRACKET;0RAISED SQUARE;0LEFT RAISED OMISSION BRACKET;
0RIGHT RAISED OMISSION BRACKET;0EDITORIAL CORONIS;0PARAGRAPHOS;0FORKED PARAGRAPHOS;
0REVERSED FORKED PARAGRAPHOS;0HYPODIASTOLE;0DOTTED OBELOS;0DOWNWARDS ANCORA;0UPWARDS ANCORA;
0DOTTED RIGHT-POINTING ANGLE;0DOUBLE OBLIQUE HYPHEN;0INVERTED INTERROBANG;0PALM BRANCH;
0HYPHEN WITH DIAERESIS;0TILDE WITH RING ABOVE;0LEFT LOW PARAPHRASE BRACKET;
0RIGHT LOW PARAPHRASE BRACKET;0TILDE WITH DOT ABOVE;3BELOW;0LEFT VERTICAL BAR WITH QUILL;
0RIGHT VERTICAL BAR WITH QUILL;0TOP LEFT HALF BRACKET;1RIGHT HALF BRACKET;0BOTTOM LEFT HALF BRACKET;
1RIGHT HALF BRACKET;0LEFT SIDEWAYS U BRACKET;0RIGHT SIDEWAYS U BRACKET;0LEFT DOUBLE PARENTHESIS;
0RIGHT DOUBLE PARENTHESIS;0TWO DOTS OVER ONE DOT PUNCTUATION;0ONE DOT OVER TWO DOTS PUNCTUATION;
0SQUARED FOUR DOT PUNCTUATION;0FIVE DOT MARK;0REVERSED QUESTION MARK;0VERTICAL TILDE;0RING POINT;
0WORD SEPARATOR MIDDLE DOT;0TURNED COMMA;0RAISED DOT;1COMMA;0TURNED SEMICOLON;
0DAGGER WITH LEFT GUARD;2RIGHT GUARD;0TURNED DAGGER;0TOP HALF SECTION SIGN;0TWO-EM DASH;
0THREE-EM DASH;0STENOGRAPHIC FULL STOP;0VERTICAL SIX DOTS;0WIGGLY VERTICAL LINE;0CAPITULUM;
0DOUBLE HYPHEN;0REVERSED COMMA;0DOUBLE LOW-REVERSED-9 QUOTATION MARK;0DASH WITH LEFT UPTURN;
0DOUBLE SUSPENSION MARK;0INVERTED LOW KAVYKA;3WITH KAVYKA ABOVE;0LOW KAVYKA;2WITH DOT;
0DOUBLE STACKED COMMA;0DOTTED SOLIDUS;0TRIPLE DAGGER;0MEDIEVAL COMMA;0PARAGRAPHUS MARK;
0PUNCTUS ELEVATUS MARK;0CORNISH VERSE DIVIDER;0CROSS PATTY WITH RIGHT CROSSBAR;3LEFT CROSSBAR;
0TIRONIAN SIGN CAPITAL ET;0MEDIEVAL EXCLAMATION MARK;1QUESTION MARK;
0LEFT SQUARE BRACKET WITH STROKE;0RIGHT SQUARE BRACKET WITH STROKE;
0LEFT SQUARE BRACKET WITH DOUBLE STROKE;0RIGHT SQUARE BRACKET WITH DOUBLE STROKE;
0TOP HALF LEFT PARENTHESIS;2RIGHT PARENTHESIS;0BOTTOM HALF LEFT PARENTHESIS;2RIGHT PARENTHESIS;
0OBLIQUE HYPHEN;=FE00;0VARIATION SELECTOR-1;1SELECTOR-2;1SELECTOR-3;1SELECTOR-4;1SELECTOR-5;
1SELECTOR-6;1SELECTOR-7;1SELECTOR-8;1SELECTOR-9;1SELECTOR-10;1SELECTOR-11;1SELECTOR-12;1SELECTOR-13;
1SELECTOR-14;1SELECTOR-15;1SELECTOR-16;=FE20;0COMBINING LIGATURE LEFT HALF;2RIGHT HALF;
1DOUBLE TILDE LEFT HALF;3RIGHT HALF;1MACRON LEFT HALF;2RIGHT HALF;1CONJOINING MACRON;
1LIGATURE LEFT HALF BELOW;2RIGHT HALF BELOW;1TILDE LEFT HALF BELOW;2RIGHT HALF BELOW;
1MACRON LEFT HALF BELOW;2RIGHT HALF BELOW;1CONJOINING MACRON BELOW;1CYRILLIC TITLO LEFT HALF;
3RIGHT HALF;=FEFF;0ZERO WIDTH NO-BREAK SPACE;=FFF9;0INTERLINEAR ANNOTATION ANCHOR;2SEPARATOR;
2TERMINATOR;0OBJECT REPLACEMENT CHARACTER;0REPLACEMENT CHARACTER;=E0001;0LANGUAGE TAG;=E0020;
0TAG SPACE;1EXCLAMATION MARK;1QUOTATION MARK;1NUMBER SIGN;1DOLLAR SIGN;1PERCENT SIGN;1AMPERSAND;
1APOSTROPHE;1LEFT PARENTHESIS;1RIGHT PARENTHESIS;1ASTERISK;1PLUS SIGN;1COMMA;1HYPHEN-MINUS;
1FULL STOP;1SOLIDUS;1DIGIT ZERO;2ONE;2TWO;2THREE;2FOUR;2FIVE;2SIX;2SEVEN;2EIGHT;2NINE;1COLON;
1SEMICOLON;1LESS-THAN SIGN;1EQUALS SIGN;1GREATER-THAN SIGN;1QUESTION MARK;1COMMERCIAL AT;
1LATIN CAPITAL LETTER A;4B;4C;4D;4E;4F;4G;4H;4I;4J;4K;4L;4M;4N;4O;4P;4Q;4R;4S;4T;4U;4V;4W;4X;4Y;4Z;
1LEFT SQUARE BRACKET;1REVERSE SOLIDUS;1RIGHT SQUARE BRACKET;1CIRCUMFLEX ACCENT;1LOW LINE;
1GRAVE ACCENT;1LATIN SMALL LETTER A;4B;4C;4D;4E;4F;4G;4H;4I;4J;4K;4L;4M;4N;4O;4P;4Q;4R;4S;4T;4U;4V;
4W;4X;4Y;4Z;1LEFT CURLY BRACKET;1VERTICAL LINE;1RIGHT CURLY BRACKET;1TILDE;0CANCEL TAG;=E0100;
0VARIATION SELECTOR-17;1SELECTOR-18;1SELECTOR-19;1SELECTOR-20;1SELECTOR-21;1SELECTOR-22;
1SELECTOR-23;1SELECTOR-24;1SELECTOR-25;1SELECTOR-26;1SELECTOR-27;1SELECTOR-28;1SELECTOR-29;
1SELECTOR-30;1SELECTOR-31;1SELECTOR-32;1SELECTOR-33;1SELECTOR-34;1SELECTOR-35;1SELECTOR-36;
1SELECTOR-37;1SELECTOR-38;1SELECTOR-39;1SELECTOR-40;1SELECTOR-41;1SELECTOR-42;1SELECTOR-43;
1SELECTOR-44;1SELECTOR-45;1SELECTOR-46;1SELECTOR-47;1SELECTOR-48;1SELECTOR-49;1SELECTOR-50;
1SELECTOR-51;1SELECTOR-52;1SELECTOR-53;1SELECTOR-54;1SELECTOR-55;1SELECTOR-56;1SELECTOR-57;
1SELECTOR-58;1SELECTOR-59;1SELECTOR-60;1SELECTOR-61;1SELECTOR-62;1SELECTOR-63;1SELECTOR-64;
1SELECTOR-65;1SELECTOR-66;1SELECTOR-67;1SELECTOR-68;1SELECTOR-69;1SELECTOR-70;1SELECTOR-71;
1SELECTOR-72;1SELECTOR-73;1SELECTOR-74;1SELECTOR-75;1SELECTOR-76;1SELECTOR-77;1SELECTOR-78;
1SELECTOR-79;1SELECTOR-80;1SELECTOR-81;1SELECTOR-82;1SELECTOR-83;1SELECTOR-84;1SELECTOR-85;
1SELECTOR-86;1SELECTOR-87;1SELECTOR-88;1SELECTOR-89;1SELECTOR-90;1SELECTOR-91;1SELECTOR-92;
1SELECTOR-93;1SELECTOR-94;1SELECTOR-95;1SELECTOR-96;1SELECTOR-97;1SELECTOR-98;1SELECTOR-99;
1SELECTOR-100;1SELECTOR-101;1SELECTOR-102;1SELECTOR-103;1SELECTOR-104;1SELECTOR-105;1SELECTOR-106;
1SELECTOR-107;1SELECTOR-108;1SELECTOR-109;1SELECTOR-110;1SELECTOR-111;1SELECTOR-112;1SELECTOR-113;
1SELECTOR-114;1SELECTOR-115;1SELECTOR-116;1SELECTOR-117;1SELECTOR-118;1SELECTOR-119;1SELECTOR-120;
1SELECTOR-121;1SELECTOR-122;1SELECTOR-123;1SELECTOR-124;1SELECTOR-125;1SELECTOR-126;1SELECTOR-127;
1SELECTOR-128;1SELECTOR-129;1SELECTOR-130;1SELECTOR-131;1SELECTOR-132;1SELECTOR-133;1SELECTOR-134;
1SELECTOR-135;1SELECTOR-136;1SELECTOR-137;1SELECTOR-138;1SELECTOR-139;1SELECTOR-140;1SELECTOR-141;
1SELECTOR-142;1SELECTOR-143;1SELECTOR-144;1SELECTOR-145;1SELECTOR-146;1SELECTOR-147;1SELECTOR-148;
1SELECTOR-149;1SELECTOR-150;1SELECTOR-151;1SELECTOR-152;1SELECTOR-153;1SELECTOR-154;1SELECTOR-155;
1SELECTOR-156;1SELECTOR-157;1SELECTOR-158;1SELECTOR-159;1SELECTOR-160;1SELECTOR-161;1SELECTOR-162;
1SELECTOR-163;1SELECTOR-164;1SELECTOR-165;1SELECTOR-166;1SELECTOR-167;1SELECTOR-168;1SELECTOR-169;
1SELECTOR-170;1SELECTOR-171;1SELECTOR-172;1SELECTOR-173;1SELECTOR-174;1SELECTOR-175;1SELECTOR-176;
1SELECTOR-177;1SELECTOR-178;1SELECTOR-179;1SELECTOR-180;1SELECTOR-181;1SELECTOR-182;1SELECTOR-183;
1SELECTOR-184;1SELECTOR-185;1SELECTOR-186;1SELECTOR-187;1SELECTOR-188;1SELECTOR-189;1SELECTOR-190;
1SELECTOR-191;1SELECTOR-192;1SELECTOR-193;1SELECTOR-194;1SELECTOR-195;1SELECTOR-196;1SELECTOR-197;
1SELECTOR-198;1SELECTOR-199;1SELECTOR-200;1SELECTOR-201;1SELECTOR-202;1SELECTOR-203;1SELECTOR-204;
1SELECTOR-205;1SELECTOR-206;1SELECTOR-207;1SELECTOR-208;1SELECTOR-209;1SELECTOR-210;1SELECTOR-211;
1SELECTOR-212;1SELECTOR-213;1SELECTOR-214;1SELECTOR-215;1SELECTOR-216;1SELECTOR-217;1SELECTOR-218;
1SELECTOR-219;1SELECTOR-220;1SELECTOR-221;1SELECTOR-222;1SELECTOR-223;1SELECTOR-224;1SELECTOR-225;
1SELECTOR-226;1SELECTOR-227;1SELECTOR-228;1SELECTOR-229;1SELECTOR-230;1SELECTOR-231;1SELECTOR-232;
1SELECTOR-233;1SELECTOR-234;1SELECTOR-235;1SELECTOR-236;1SELECTOR-237;1SELECTOR-238;1SELECTOR-239;
1SELECTOR-240;1SELECTOR-241;1SELECTOR-242;1SELECTOR-243;1SELECTOR-244;1SELECTOR-245;1SELECTOR-246;
1SELECTOR-247;1SELECTOR-248;1SELECTOR-249;1SELECTOR-250;1SELECTOR-251;1SELECTOR-252;1SELECTOR-253;
1SELECTOR-254;1SELECTOR-255;1SELECTOR-256;"

/-- Names of letters for mathematics, of music, of signs and of shorthand. -/
def notationNames : String := "
=1BC00;0DUPLOYAN LETTER H;2X;2P;2T;2F;2K;2L;2B;2D;2V;2G;2R;2P N;2D S;2F N;2K M;2R S;2TH;2SLOAN DH;
2DH;2KK;2SLOAN J;2HL;2LH;2RH;2M;2N;2J;2S;2M N;2N M;2J M;2S J;2M WITH DOT;2N WITH DOT;2J WITH DOT;
4DOTS INSIDE AND ABOVE;2S WITH DOT;5BELOW;2M S;2N S;2J S;2S S;2M N S;2N M S;2J M S;2S J S;
2J S WITH DOT;3N;4S;2S T;4R;3P;4R;2T S;3R S;2W;2WH;2W R;2S N;3M;2K R S;2G R S;2S K;4R;2A;2SLOAN OW;
2OA;2O;2AOU;2I;2E;2IE;2SHORT I;2UI;2EE;2SLOAN EH;2ROMANIAN I;2SLOAN EE;2LONG I;2YE;2U;2EU;2XW;2U N;
2LONG U;2ROMANIAN U;2UH;2SLOAN U;2OOH;2OW;2OU;2WA;2WO;2WI;2WEI;2WOW;2NASAL U;3O;3I;3A;2PERNIN AN;
3AM;2SLOAN EN;3AN;3ON;2VOCALIC M;=1BC70;1AFFIX LEFT HORIZONTAL SECANT;2MID HORIZONTAL SECANT;
2RIGHT HORIZONTAL SECANT;2LOW VERTICAL SECANT;2MID VERTICAL SECANT;2HIGH VERTICAL SECANT;
2ATTACHED SECANT;3LEFT-TO-RIGHT SECANT;3TANGENT;3TAIL;3E HOOK;3I HOOK;3TANGENT HOOK;=1BC80;
2HIGH ACUTE;3TIGHT ACUTE;3GRAVE;3LONG GRAVE;3DOT;3CIRCLE;3LINE;3WAVE;3VERTICAL;=1BC90;2LOW ACUTE;
3TIGHT ACUTE;3GRAVE;3LONG GRAVE;3DOT;3CIRCLE;3LINE;3WAVE;3VERTICAL;3ARROW;=1BC9C;1SIGN O WITH CROSS;
1THICK LETTER SELECTOR;1DOUBLE MARK;1PUNCTUATION CHINOOK FULL STOP;0SHORTHAND FORMAT LETTER OVERLAP;
2CONTINUING OVERLAP;2DOWN STEP;2UP STEP;=1CF00;
0ZNAMENNY COMBINING MARK GORAZDO NIZKO S KRYZHEM ON LEFT;3NIZKO S KRYZHEM ON LEFT;3TSATA ON LEFT;
3GORAZDO NIZKO ON LEFT;3NIZKO ON LEFT;3SREDNE ON LEFT;3MALO POVYSHE ON LEFT;3POVYSHE ON LEFT;
3VYSOKO ON LEFT;3MALO POVYSHE S KHOKHLOM ON LEFT;3POVYSHE S KHOKHLOM ON LEFT;
3VYSOKO S KHOKHLOM ON LEFT;3GORAZDO NIZKO S KRYZHEM ON RIGHT;3NIZKO S KRYZHEM ON RIGHT;
3TSATA ON RIGHT;3GORAZDO NIZKO ON RIGHT;3NIZKO ON RIGHT;3SREDNE ON RIGHT;3MALO POVYSHE ON RIGHT;
3POVYSHE ON RIGHT;3VYSOKO ON RIGHT;3MALO POVYSHE S KHOKHLOM ON RIGHT;3POVYSHE S KHOKHLOM ON RIGHT;
3VYSOKO S KHOKHLOM ON RIGHT;3TSATA S KRYZHEM;3MALO POVYSHE S KRYZHEM;3STRANNO MALO POVYSHE;
3POVYSHE S KRYZHEM;4STRANNO;3VYSOKO S KRYZHEM;3MALO POVYSHE STRANNO;3GORAZDO VYSOKO;3ZELO;3ON;
3RAVNO;3TIKHAYA;3BORZAYA;3UDARKA;3PODVERTKA;3LOMKA;3KUPNAYA;3KACHKA;3ZEVOK;3SKOBA;3RAZSEKA;
3KRYZH ON LEFT;=1CF30;2TONAL RANGE MARK MRACHNO;5SVETLO;5TRESVETLO;2MARK ZADERZHKA;
3DEMESTVENNY ZADERZHKA;3OTSECHKA;3PODCHASHIE;4WITH VERTICAL STROKE;3CHASHKA;4POLNAYA;3OBLACHKO;
3SOROCHYA NOZHKA;3TOCHKA;3DVOETOCHIE;2ATTACHING VERTICAL OMET;2MARK CURVED OMET;3KRYZH;
2LOWER TONAL RANGE INDICATOR;1PRIZNAK MODIFIER LEVEL-2;3LEVEL-3;3DIRECTION FLIP;3KRYZH;3ROG;=1CF50;
1NEUME KRYUK;3TIKHY;2PARAKLIT;2DVA V CHELNU;2KLYUCH;2ZANOZHEK;2STOPITSA;3S OCHKOM;2PEREVODKA;
3NEPOSTOYANNAYA;2STOPITSA WITH SOROCHYA NOZHKA;2CHELYUSTKA;2PALKA;2ZAPYATAYA;2GOLUBCHIK BORZY;
3TIKHY;3MRACHNY;3SVETLY;3TRESVETLY;2VRAKHIYA PROSTAYA;3MRACHNAYA;3SVETLAYA;3TRESVETLAYA;
3KLYUCHEVAYA PROSTAYA;4MRACHNAYA;4SVETLAYA;4TRESVETLAYA;2DOUBLE ZAPYATAYA;2REVERSED CHELYUSTKA;
2DERBITSA;2KHAMILO;2CHASHKA;2PODCHASHIE;2SKAMEYTSA MRACHNAYA;3SVETLAYA;3TRESVETLAYA;3TIKHAYA;
2DEMESTVENNY KLYUCH;2SKAMEYTSA KLYUCHEVAYA SVETLAYA;3KLYUCHENEPOSTOYANNAYA;3KLYUCHEVAYA TIKHAYA;
3DVOECHELNAYA PROSTAYA;4SVETLAYA;4NEPOSTOYANNAYA;4KLYUCHEVAYA;2SLOZHITIE;3S ZAPYATOY;3ZAKRYTOE;
3S KRYZHEM;2KRYZH;2ROG;2FITA;2KOBYLA;2ZMEYTSA;2STATYA;3S ZAPYATOY;4KRYZHEM;4ZAPYATOY I KRYZHEM;
4KRYZHEM I ZAPYATOY;3ZAKRYTAYA;4S ZAPYATOY;3S ROGOM;4DVUMYA ZAPYATYMI;4ZAPYATOY I PODCHASHIEM;
2POLKULIZMY;2STATYA NEPOSTOYANNAYA;2STRELA PROSTAYA;3MRACHNOTIKHAYA;3KRYZHEVAYA;3POLUPOVODNAYA;
3POVODNAYA;3NEPOSTOYANNAYA;3KLYUCHEPOVODNAYA;3KLYUCHENEPOSTOYANNAYA;3TIKHAYA PUTNAYA;3DVOECHELNAYA;
3DVOECHELNOKRYZHEVAYA;3DVOECHELNOPOVODNAYA;3DVOECHELNAYA KLYUCHEVAYA;
3DVOECHELNOPOVODNAYA KLYUCHEVAYA;3GROMNAYA WITH SINGLE ZAPYATAYA;
3GROMOPOVODNAYA WITH SINGLE ZAPYATAYA;3GROMNAYA;3GROMOPOVODNAYA;4WITH DOUBLE ZAPYATAYA;
3GROMOKRYZHEVAYA;4POVODNAYA;2MECHIK;3POVODNY;3KLYUCHEVOY;3KLYUCHEPOVODNY;3KLYUCHENEPOSTOYANNY;
2STRELA TRYASOGLASNAYA;3TRYASOPOVODNAYA;3TRYASOSTRELNAYA;2OSOKA;3SVETLAYA;3TRESVETLAYA;
3KRYUKOVAYA SVETLAYA;3KLYUCHEVAYA SVETLAYA;4NEPOSTOYANNAYA;2STRELA KRYUKOVAYA;4POVODNAYA;
4GROMNAYA WITH SINGLE ZAPYATAYA;4GROMOPOVODNAYA WITH SINGLE ZAPYATAYA;4GROMNAYA;4GROMOPOVODNAYA;
5WITH DOUBLE ZAPYATAYA;4GROMOKRYZHEVAYA;5POVODNAYA;4TRYASKA;2KUFISMA;2OBLAKO;2DUDA;2NEMKA;2PAUK;
=1D000;0BYZANTINE MUSICAL SYMBOL PSILI;3DASEIA;3PERISPOMENI;3OXEIA EKFONITIKON;4DIPLI;
3VAREIA EKFONITIKON;4DIPLI;3KATHISTI;3SYRMATIKI;3PARAKLITIKI;3YPOKRISIS;4DIPLI;3KREMASTI;
3APESO EKFONITIKON;3EXO EKFONITIKON;3TELEIA;3KENTIMATA;3APOSTROFOS;4DIPLI;3SYNEVMA;3THITA;
3OLIGON ARCHAION;3GORGON ARCHAION;3PSILON;3CHAMILON;3VATHY;3ISON ARCHAION;3KENTIMA ARCHAION;
3KENTIMATA ARCHAION;3SAXIMATA;3PARICHON;3STAVROS APODEXIA;3OXEIAI ARCHAION;3VAREIAI ARCHAION;
3APODERMA ARCHAION;3APOTHEMA;3KLASMA;3REVMA;3PIASMA ARCHAION;3TINAGMA;3ANATRICHISMA;3SEISMA;
3SYNAGMA ARCHAION;4META STAVROU;3OYRANISMA ARCHAION;3THEMA;3LEMOI;3DYO;3TRIA;3TESSERA;3KRATIMATA;
3APESO EXO NEO;3FTHORA ARCHAION;3IMIFTHORA;3TROMIKON ARCHAION;3KATAVA TROMIKON;3PELASTON;3PSIFISTON;
3KONTEVMA;3CHOREVMA ARCHAION;3RAPISMA;3PARAKALESMA ARCHAION;3PARAKLITIKI ARCHAION;3ICHADIN;3NANA;
3PETASMA;3KONTEVMA ALLO;3TROMIKON ALLO;3STRAGGISMATA;3GRONTHISMATA;3ISON NEO;3OLIGON NEO;3OXEIA NEO;
3PETASTI;3KOUFISMA;3PETASTOKOUFISMA;3KRATIMOKOUFISMA;3PELASTON NEO;3KENTIMATA NEO ANO;
3KENTIMA NEO ANO;3YPSILI;3APOSTROFOS NEO;3APOSTROFOI SYNDESMOS NEO;3YPORROI;3KRATIMOYPORROON;
3ELAFRON;3CHAMILI;3MIKRON ISON;3VAREIA NEO;3PIASMA NEO;3PSIFISTON NEO;3OMALON;3ANTIKENOMA;3LYGISMA;
3PARAKLITIKI NEO;3PARAKALESMA NEO;3ETERON PARAKALESMA;3KYLISMA;3ANTIKENOKYLISMA;3TROMIKON NEO;
3EKSTREPTON;3SYNAGMA NEO;3SYRMA;3CHOREVMA NEO;3EPEGERMA;3SEISMA NEO;3XIRON KLASMA;3TROMIKOPSIFISTON;
3PSIFISTOLYGISMA;3TROMIKOLYGISMA;3TROMIKOPARAKALESMA;3PSIFISTOPARAKALESMA;3TROMIKOSYNAGMA;
3PSIFISTOSYNAGMA;3GORGOSYNTHETON;3ARGOSYNTHETON;3ETERON ARGOSYNTHETON;3OYRANISMA NEO;
3THEMATISMOS ESO;4EXO;3THEMA APLOUN;3THES KAI APOTHES;3KATAVASMA;3ENDOFONON;3YFEN KATO;4ANO;
3STAVROS;3KLASMA ANO;3DIPLI ARCHAION;3KRATIMA ARCHAION;4ALLO;4NEO;3APODERMA NEO;3APLI;3DIPLI;
3TRIPLI;3TETRAPLI;3KORONIS;3LEIMMA ENOS CHRONOU;4DYO CHRONON;4TRION CHRONON;4TESSARON CHRONON;
4IMISEOS CHRONOU;3GORGON NEO ANO;4PARESTIGMENON ARISTERA;5DEXIA;3DIGORGON;
4PARESTIGMENON ARISTERA KATO;6ANO;5DEXIA;3TRIGORGON;3ARGON;3IMIDIARGON;3DIARGON;3AGOGI POLI ARGI;
4ARGOTERI;4ARGI;4METRIA;4MESI;4GORGI;4GORGOTERI;4POLI GORGI;3MARTYRIA PROTOS ICHOS;
4ALLI PROTOS ICHOS;4DEYTEROS ICHOS;4ALLI DEYTEROS ICHOS;4TRITOS ICHOS;4TRIFONIAS;4TETARTOS ICHOS;
5LEGETOS ICHOS;4LEGETOS ICHOS;4PLAGIOS ICHOS;3ISAKIA TELOUS ICHIMATOS;3APOSTROFOI TELOUS ICHIMATOS;
3FANEROSIS TETRAFONIAS;4MONOFONIAS;4DIFONIAS;3MARTYRIA VARYS ICHOS;4PROTOVARYS ICHOS;
4PLAGIOS TETARTOS ICHOS;3GORTHMIKON N APLOUN;5DIPLOUN;3ENARXIS KAI FTHORA VOU;3IMIFONON;3IMIFTHORON;
3FTHORA ARCHAION DEYTEROU ICHOU;4DIATONIKI PA;5NANA;4NAOS ICHOS;4DIATONIKI DI;4SKLIRON DIATONON DI;
4DIATONIKI KE;5ZO;5NI KATO;6ANO;4MALAKON CHROMA DIFONIAS;6MONOFONIAS;3FHTORA SKLIRON CHROMA VASIS;
3FTHORA SKLIRON CHROMA SYNAFI;4NENANO;3CHROA ZYGOS;4KLITON;4SPATHI;3FTHORA I YFESIS TETARTIMORION;
4ENARMONIOS ANTIFONIA;3YFESIS TRITIMORION;3DIESIS TRITIMORION;4TETARTIMORION;4APLI DYO DODEKATA;
4MONOGRAMMOS TESSERA DODEKATA;4DIGRAMMOS EX DODEKATA;4TRIGRAMMOS OKTO DODEKATA;
3YFESIS APLI DYO DODEKATA;4MONOGRAMMOS TESSERA DODEKATA;4DIGRAMMOS EX DODEKATA;
4TRIGRAMMOS OKTO DODEKATA;3GENIKI DIESIS;4YFESIS;3DIASTOLI APLI MIKRI;5MEGALI;4DIPLI;4THESEOS;
3SIMANSIS THESEOS;5DISIMOU;5TRISIMOU;5TETRASIMOU;4ARSEOS;5DISIMOU;5TRISIMOU;5TETRASIMOU;
3DIGRAMMA GG;3DIFTOGGOS OU;3STIGMA;3ARKTIKO PA;4VOU;4GA;4DI;4KE;4ZO;4NI;3KENTIMATA NEO MESO;
3KENTIMA NEO MESO;3KENTIMATA NEO KATO;3KENTIMA NEO KATO;3KLASMA KATO;3GORGON NEO KATO;=1D100;
0MUSICAL SYMBOL SINGLE BARLINE;2DOUBLE BARLINE;2FINAL BARLINE;2REVERSE FINAL BARLINE;
2DASHED BARLINE;2SHORT BARLINE;2LEFT REPEAT SIGN;2RIGHT REPEAT SIGN;2REPEAT DOTS;2DAL SEGNO;
2DA CAPO;2SEGNO;2CODA;2REPEATED FIGURE-1;3FIGURE-2;3FIGURE-3;2FERMATA;3BELOW;2BREATH MARK;2CAESURA;
2BRACE;2BRACKET;2ONE-LINE STAFF;2TWO-LINE STAFF;2THREE-LINE STAFF;2FOUR-LINE STAFF;2FIVE-LINE STAFF;
2SIX-LINE STAFF;2SIX-STRING FRETBOARD;2FOUR-STRING FRETBOARD;2G CLEF;4OTTAVA ALTA;5BASSA;2C CLEF;
2F CLEF;4OTTAVA ALTA;5BASSA;2DRUM CLEF-1;3CLEF-2;=1D129;2MULTIPLE MEASURE REST;2DOUBLE SHARP;3FLAT;
2FLAT UP;3DOWN;2NATURAL UP;3DOWN;2SHARP UP;3DOWN;2QUARTER TONE SHARP;4FLAT;2COMMON TIME;2CUT TIME;
2OTTAVA ALTA;3BASSA;2QUINDICESIMA ALTA;3BASSA;2MULTI REST;2WHOLE REST;2HALF REST;2QUARTER REST;
2EIGHTH REST;2SIXTEENTH REST;2THIRTY-SECOND REST;2SIXTY-FOURTH REST;2ONE HUNDRED TWENTY-EIGHTH REST;
2X NOTEHEAD;2PLUS NOTEHEAD;2CIRCLE X NOTEHEAD;2SQUARE NOTEHEAD WHITE;4BLACK;
2TRIANGLE NOTEHEAD UP WHITE;5BLACK;4LEFT WHITE;5BLACK;4RIGHT WHITE;5BLACK;4DOWN WHITE;5BLACK;
4UP RIGHT WHITE;6BLACK;2MOON NOTEHEAD WHITE;4BLACK;2TRIANGLE-ROUND NOTEHEAD DOWN WHITE;5BLACK;
2PARENTHESIS NOTEHEAD;2VOID NOTEHEAD;2NOTEHEAD BLACK;2NULL NOTEHEAD;2CLUSTER NOTEHEAD WHITE;4BLACK;
2BREVE;2WHOLE NOTE;2HALF NOTE;2QUARTER NOTE;2EIGHTH NOTE;2SIXTEENTH NOTE;2THIRTY-SECOND NOTE;
2SIXTY-FOURTH NOTE;2ONE HUNDRED TWENTY-EIGHTH NOTE;2COMBINING STEM;3SPRECHGESANG STEM;3TREMOLO-1;
3TREMOLO-2;3TREMOLO-3;2FINGERED TREMOLO-1;3TREMOLO-2;3TREMOLO-3;2COMBINING AUGMENTATION DOT;3FLAG-1;
3FLAG-2;3FLAG-3;3FLAG-4;3FLAG-5;2BEGIN BEAM;2END BEAM;2BEGIN TIE;2END TIE;2BEGIN SLUR;2END SLUR;
2BEGIN PHRASE;2END PHRASE;2COMBINING ACCENT;3STACCATO;3TENUTO;3STACCATISSIMO;3MARCATO;
3MARCATO-STACCATO;3ACCENT-STACCATO;3LOURE;2ARPEGGIATO UP;3DOWN;2COMBINING DOIT;3RIP;3FLIP;3SMEAR;
3BEND;3DOUBLE TONGUE;3TRIPLE TONGUE;2RINFORZANDO;2SUBITO;2Z;2PIANO;2MEZZO;2FORTE;2CRESCENDO;
2DECRESCENDO;2GRACE NOTE SLASH;4NO SLASH;2TR;2TURN;2INVERTED TURN;2TURN SLASH;3UP;
2ORNAMENT STROKE-1;3STROKE-2;3STROKE-3;3STROKE-4;3STROKE-5;3STROKE-6;3STROKE-7;3STROKE-8;3STROKE-9;
3STROKE-10;3STROKE-11;2HAUPTSTIMME;2NEBENSTIMME;2END OF STIMME;2DEGREE SLASH;2COMBINING DOWN BOW;
3UP BOW;3HARMONIC;3SNAP PIZZICATO;2PEDAL MARK;3UP MARK;2HALF PEDAL MARK;2GLISSANDO UP;3DOWN;
2WITH FINGERNAILS;2DAMP;3ALL;2MAXIMA;2LONGA;2BREVIS;2SEMIBREVIS WHITE;3BLACK;2MINIMA;3BLACK;
2SEMIMINIMA WHITE;3BLACK;2FUSA WHITE;3BLACK;2LONGA PERFECTA REST;3IMPERFECTA REST;2BREVIS REST;
2SEMIBREVIS REST;2MINIMA REST;2SEMIMINIMA REST;2TEMPUS PERFECTUM CUM PROLATIONE PERFECTA;
6IMPERFECTA;6PERFECTA DIMINUTION-1;3IMPERFECTUM CUM PROLATIONE PERFECTA;6IMPERFECTA;7DIMINUTION-1;
7DIMINUTION-2;7DIMINUTION-3;2CROIX;2GREGORIAN C CLEF;3F CLEF;2SQUARE B;2VIRGA;2PODATUS;2CLIVIS;
2SCANDICUS;2CLIMACUS;2TORCULUS;2PORRECTUS;3FLEXUS;2SCANDICUS FLEXUS;2TORCULUS RESUPINUS;
2PES SUBPUNCTIS;2KIEVAN C CLEF;3END OF PIECE;3FINAL NOTE;3RECITATIVE MARK;3WHOLE NOTE;3HALF NOTE;
3QUARTER NOTE STEM DOWN;6UP;3EIGHTH NOTE STEM DOWN;6UP;3FLAT SIGN;2SORI;2KORON;=1D200;
0GREEK VOCAL NOTATION SYMBOL-1;3SYMBOL-2;3SYMBOL-3;3SYMBOL-4;3SYMBOL-5;3SYMBOL-6;3SYMBOL-7;
3SYMBOL-8;3SYMBOL-9;3SYMBOL-10;3SYMBOL-11;3SYMBOL-12;3SYMBOL-13;3SYMBOL-14;3SYMBOL-15;3SYMBOL-16;
3SYMBOL-17;3SYMBOL-18;3SYMBOL-19;3SYMBOL-20;3SYMBOL-21;3SYMBOL-22;3SYMBOL-23;3SYMBOL-24;3SYMBOL-50;
3SYMBOL-51;3SYMBOL-52;3SYMBOL-53;3SYMBOL-54;1INSTRUMENTAL NOTATION SYMBOL-1;3SYMBOL-2;3SYMBOL-4;
3SYMBOL-5;3SYMBOL-7;3SYMBOL-8;3SYMBOL-11;3SYMBOL-12;3SYMBOL-13;3SYMBOL-14;3SYMBOL-17;3SYMBOL-18;
3SYMBOL-19;3SYMBOL-23;3SYMBOL-24;3SYMBOL-25;3SYMBOL-26;3SYMBOL-27;3SYMBOL-29;3SYMBOL-30;3SYMBOL-32;
3SYMBOL-36;3SYMBOL-37;3SYMBOL-38;3SYMBOL-39;3SYMBOL-40;3SYMBOL-42;3SYMBOL-43;3SYMBOL-45;3SYMBOL-47;
3SYMBOL-48;3SYMBOL-49;3SYMBOL-50;3SYMBOL-51;3SYMBOL-52;3SYMBOL-53;3SYMBOL-54;
0COMBINING GREEK MUSICAL TRISEME;3TETRASEME;3PENTASEME;0GREEK MUSICAL LEIMMA;=1D2E0;
0MAYAN NUMERAL ZERO;2ONE;2TWO;2THREE;2FOUR;2FIVE;2SIX;2SEVEN;2EIGHT;2NINE;2TEN;2ELEVEN;2TWELVE;
2THIRTEEN;2FOURTEEN;2FIFTEEN;2SIXTEEN;2SEVENTEEN;2EIGHTEEN;2NINETEEN;=1D300;0MONOGRAM FOR EARTH;
0DIGRAM FOR HEAVENLY EARTH;2HUMAN EARTH;2EARTHLY HEAVEN;3HUMAN;2EARTH;0TETRAGRAM FOR CENTRE;
2FULL CIRCLE;2MIRED;2BARRIER;2KEEPING SMALL;2CONTRARIETY;2ASCENT;2OPPOSITION;2BRANCHING OUT;
2DEFECTIVENESS OR DISTORTION;2DIVERGENCE;2YOUTHFULNESS;2INCREASE;2PENETRATION;2REACH;2CONTACT;
2HOLDING BACK;2WAITING;2FOLLOWING;2ADVANCE;2RELEASE;2RESISTANCE;2EASE;2JOY;2CONTENTION;2ENDEAVOUR;
2DUTIES;2CHANGE;2DECISIVENESS;2BOLD RESOLUTION;2PACKING;2LEGION;2CLOSENESS;2KINSHIP;2GATHERING;
2STRENGTH;2PURITY;2FULLNESS;2RESIDENCE;2LAW OR MODEL;2RESPONSE;2GOING TO MEET;2ENCOUNTERS;2STOVE;
2GREATNESS;2ENLARGEMENT;2PATTERN;2RITUAL;2FLIGHT;2VASTNESS OR WASTING;2CONSTANCY;2MEASURE;2ETERNITY;
2UNITY;2DIMINISHMENT;2CLOSED MOUTH;2GUARDEDNESS;2GATHERING IN;2MASSING;2ACCUMULATION;2EMBELLISHMENT;
2DOUBT;2WATCH;2SINKING;2INNER;2DEPARTURE;2DARKENING;2DIMMING;2EXHAUSTION;2SEVERANCE;2STOPPAGE;
2HARDNESS;2COMPLETION;2CLOSURE;2FAILURE;2AGGRAVATION;2COMPLIANCE;2ON THE VERGE;2DIFFICULTIES;
2LABOURING;2FOSTERING;=1D360;0COUNTING ROD UNIT DIGIT ONE;4TWO;4THREE;4FOUR;4FIVE;4SIX;4SEVEN;
4EIGHT;4NINE;2TENS DIGIT ONE;4TWO;4THREE;4FOUR;4FIVE;4SIX;4SEVEN;4EIGHT;4NINE;
0IDEOGRAPHIC TALLY MARK ONE;3TWO;3THREE;3FOUR;3FIVE;0TALLY MARK ONE;2FIVE;=1D400;
0MATHEMATICAL BOLD CAPITAL A;3B;3C;3D;3E;3F;3G;3H;3I;3J;3K;3L;3M;3N;3O;3P;3Q;3R;3S;3T;3U;3V;3W;3X;
3Y;3Z;2SMALL A;3B;3C;3D;3E;3F;3G;3H;3I;3J;3K;3L;3M;3N;3O;3P;3Q;3R;3S;3T;3U;3V;3W;3X;3Y;3Z;
1ITALIC CAPITAL A;3B;3C;3D;3E;3F;3G;3H;3I;3J;3K;3L;3M;3N;3O;3P;3Q;3R;3S;3T;3U;3V;3W;3X;3Y;3Z;
2SMALL A;3B;3C;3D;3E;3F;3G;=1D456;3I;3J;3K;3L;3M;3N;3O;3P;3Q;3R;3S;3T;3U;3V;3W;3X;3Y;3Z;
1BOLD ITALIC CAPITAL A;4B;4C;4D;4E;4F;4G;4H;4I;4J;4K;4L;4M;4N;4O;4P;4Q;4R;4S;4T;4U;4V;4W;4X;4Y;4Z;
3SMALL A;4B;4C;4D;4E;4F;4G;4H;4I;4J;4K;4L;4M;4N;4O;4P;4Q;4R;4S;4T;4U;4V;4W;4X;4Y;4Z;
1SCRIPT CAPITAL A;=1D49E;3C;3D;=1D4A2;3G;=1D4A5;3J;3K;=1D4A9;3N;3O;3P;3Q;=1D4AE;3S;3T;3U;3V;3W;3X;
3Y;3Z;2SMALL A;3B;3C;3D;=1D4BB;3F;=1D4BD;3H;3I;3J;3K;3L;3M;3N;=1D4C5;3P;3Q;3R;3S;3T;3U;3V;3W;3X;3Y;
3Z;1BOLD SCRIPT CAPITAL A;4B;4C;4D;4E;4F;4G;4H;4I;4J;4K;4L;4M;4N;4O;4P;4Q;4R;4S;4T;4U;4V;4W;4X;4Y;
4Z;3SMALL A;4B;4C;4D;4E;4F;4G;4H;4I;4J;4K;4L;4M;4N;4O;4P;4Q;4R;4S;4T;4U;4V;4W;4X;4Y;4Z;
1FRAKTUR CAPITAL A;3B;=1D507;3D;3E;3F;3G;=1D50D;3J;3K;3L;3M;3N;3O;3P;3Q;=1D516;3S;3T;3U;3V;3W;3X;3Y;
=1D51E;2SMALL A;3B;3C;3D;3E;3F;3G;3H;3I;3J;3K;3L;3M;3N;3O;3P;3Q;3R;3S;3T;3U;3V;3W;3X;3Y;3Z;
1DOUBLE-STRUCK CAPITAL A;3B;=1D53B;3D;3E;3F;3G;=1D540;3I;3J;3K;3L;3M;=1D546;3O;=1D54A;3S;3T;3U;3V;
3W;3X;3Y;=1D552;2SMALL A;3B;3C;3D;3E;3F;3G;3H;3I;3J;3K;3L;3M;3N;3O;3P;3Q;3R;3S;3T;3U;3V;3W;3X;3Y;3Z;
1BOLD FRAKTUR CAPITAL A;4B;4C;4D;4E;4F;4G;4H;4I;4J;4K;4L;4M;4N;4O;4P;4Q;4R;4S;4T;4U;4V;4W;4X;4Y;4Z;
3SMALL A;4B;4C;4D;4E;4F;4G;4H;4I;4J;4K;4L;4M;4N;4O;4P;4Q;4R;4S;4T;4U;4V;4W;4X;4Y;4Z;
1SANS-SERIF CAPITAL A;3B;3C;3D;3E;3F;3G;3H;3I;3J;3K;3L;3M;3N;3O;3P;3Q;3R;3S;3T;3U;3V;3W;3X;3Y;3Z;
2SMALL A;3B;3C;3D;3E;3F;3G;3H;3I;3J;3K;3L;3M;3N;3O;3P;3Q;3R;3S;3T;3U;3V;3W;3X;3Y;3Z;2BOLD CAPITAL A;
4B;4C;4D;4E;4F;4G;4H;4I;4J;4K;4L;4M;4N;4O;4P;4Q;4R;4S;4T;4U;4V;4W;4X;4Y;4Z;3SMALL A;4B;4C;4D;4E;4F;
4G;4H;4I;4J;4K;4L;4M;4N;4O;4P;4Q;4R;4S;4T;4U;4V;4W;4X;4Y;4Z;2ITALIC CAPITAL A;4B;4C;4D;4E;4F;4G;4H;
4I;4J;4K;4L;4M;4N;4O;4P;4Q;4R;4S;4T;4U;4V;4W;4X;4Y;4Z;3SMALL A;4B;4C;4D;4E;4F;4G;4H;4I;4J;4K;4L;4M;
4N;4O;4P;4Q;4R;4S;4T;4U;4V;4W;4X;4Y;4Z;2BOLD ITALIC CAPITAL A;5B;5C;5D;5E;5F;5G;5H;5I;5J;5K;5L;5M;
5N;5O;5P;5Q;5R;5S;5T;5U;5V;5W;5X;5Y;5Z;4SMALL A;5B;5C;5D;5E;5F;5G;5H;5I;5J;5K;5L;5M;5N;5O;5P;5Q;5R;
5S;5T;5U;5V;5W;5X;5Y;5Z;1MONOSPACE CAPITAL A;3B;3C;3D;3E;3F;3G;3H;3I;3J;3K;3L;3M;3N;3O;3P;3Q;3R;3S;
3T;3U;3V;3W;3X;3Y;3Z;2SMALL A;3B;3C;3D;3E;3F;3G;3H;3I;3J;3K;3L;3M;3N;3O;3P;3Q;3R;3S;3T;3U;3V;3W;3X;
3Y;3Z;1ITALIC SMALL DOTLESS I;4J;=1D6A8;1BOLD CAPITAL ALPHA;3BETA;3GAMMA;3DELTA;3EPSILON;3ZETA;3ETA;
3THETA;3IOTA;3KAPPA;3LAMDA;3MU;3NU;3XI;3OMICRON;3PI;3RHO;3THETA SYMBOL;3SIGMA;3TAU;3UPSILON;3PHI;
3CHI;3PSI;3OMEGA;2NABLA;2SMALL ALPHA;3BETA;3GAMMA;3DELTA;3EPSILON;3ZETA;3ETA;3THETA;3IOTA;3KAPPA;
3LAMDA;3MU;3NU;3XI;3OMICRON;3PI;3RHO;3FINAL SIGMA;3SIGMA;3TAU;3UPSILON;3PHI;3CHI;3PSI;3OMEGA;
2PARTIAL DIFFERENTIAL;2EPSILON SYMBOL;2THETA SYMBOL;2KAPPA SYMBOL;2PHI SYMBOL;2RHO SYMBOL;
2PI SYMBOL;1ITALIC CAPITAL ALPHA;3BETA;3GAMMA;3DELTA;3EPSILON;3ZETA;3ETA;3THETA;3IOTA;3KAPPA;3LAMDA;
3MU;3NU;3XI;3OMICRON;3PI;3RHO;3THETA SYMBOL;3SIGMA;3TAU;3UPSILON;3PHI;3CHI;3PSI;3OMEGA;2NABLA;
2SMALL ALPHA;3BETA;3GAMMA;3DELTA;3EPSILON;3ZETA;3ETA;3THETA;3IOTA;3KAPPA;3LAMDA;3MU;3NU;3XI;
3OMICRON;3PI;3RHO;3FINAL SIGMA;3SIGMA;3TAU;3UPSILON;3PHI;3CHI;3PSI;3OMEGA;2PARTIAL DIFFERENTIAL;
2EPSILON SYMBOL;2THETA SYMBOL;2KAPPA SYMBOL;2PHI SYMBOL;2RHO SYMBOL;2PI SYMBOL;
1BOLD ITALIC CAPITAL ALPHA;4BETA;4GAMMA;4DELTA;4EPSILON;4ZETA;4ETA;4THETA;4IOTA;4KAPPA;4LAMDA;4MU;
4NU;4XI;4OMICRON;4PI;4RHO;4THETA SYMBOL;4SIGMA;4TAU;4UPSILON;4PHI;4CHI;4PSI;4OMEGA;3NABLA;
3SMALL ALPHA;4BETA;4GAMMA;4DELTA;4EPSILON;4ZETA;4ETA;4THETA;4IOTA;4KAPPA;4LAMDA;4MU;4NU;4XI;
4OMICRON;4PI;4RHO;4FINAL SIGMA;4SIGMA;4TAU;4UPSILON;4PHI;4CHI;4PSI;4OMEGA;3PARTIAL DIFFERENTIAL;
3EPSILON SYMBOL;3THETA SYMBOL;3KAPPA SYMBOL;3PHI SYMBOL;3RHO SYMBOL;3PI SYMBOL;
1SANS-SERIF BOLD CAPITAL ALPHA;4BETA;4GAMMA;4DELTA;4EPSILON;4ZETA;4ETA;4THETA;4IOTA;4KAPPA;4LAMDA;
4MU;4NU;4XI;4OMICRON;4PI;4RHO;4THETA SYMBOL;4SIGMA;4TAU;4UPSILON;4PHI;4CHI;4PSI;4OMEGA;3NABLA;
3SMALL ALPHA;4BETA;4GAMMA;4DELTA;4EPSILON;4ZETA;4ETA;4THETA;4IOTA;4KAPPA;4LAMDA;4MU;4NU;4XI;
4OMICRON;4PI;4RHO;4FINAL SIGMA;4SIGMA;4TAU;4UPSILON;4PHI;4CHI;4PSI;4OMEGA;3PARTIAL DIFFERENTIAL;
3EPSILON SYMBOL;3THETA SYMBOL;3KAPPA SYMBOL;3PHI SYMBOL;3RHO SYMBOL;3PI SYMBOL;
3ITALIC CAPITAL ALPHA;5BETA;5GAMMA;5DELTA;5EPSILON;5ZETA;5ETA;5THETA;5IOTA;5KAPPA;5LAMDA;5MU;5NU;
5XI;5OMICRON;5PI;5RHO;5THETA SYMBOL;5SIGMA;5TAU;5UPSILON;5PHI;5CHI;5PSI;5OMEGA;4NABLA;4SMALL ALPHA;
5BETA;5GAMMA;5DELTA;5EPSILON;5ZETA;5ETA;5THETA;5IOTA;5KAPPA;5LAMDA;5MU;5NU;5XI;5OMICRON;5PI;5RHO;
5FINAL SIGMA;5SIGMA;5TAU;5UPSILON;5PHI;5CHI;5PSI;5OMEGA;4PARTIAL DIFFERENTIAL;4EPSILON SYMBOL;
4THETA SYMBOL;4KAPPA SYMBOL;4PHI SYMBOL;4RHO SYMBOL;4PI SYMBOL;1BOLD CAPITAL DIGAMMA;2SMALL DIGAMMA;
=1D7CE;2DIGIT ZERO;3ONE;3TWO;3THREE;3FOUR;3FIVE;3SIX;3SEVEN;3EIGHT;3NINE;1DOUBLE-STRUCK DIGIT ZERO;
3ONE;3TWO;3THREE;3FOUR;3FIVE;3SIX;3SEVEN;3EIGHT;3NINE;1SANS-SERIF DIGIT ZERO;3ONE;3TWO;3THREE;3FOUR;
3FIVE;3SIX;3SEVEN;3EIGHT;3NINE;2BOLD DIGIT ZERO;4ONE;4TWO;4THREE;4FOUR;4FIVE;4SIX;4SEVEN;4EIGHT;
4NINE;1MONOSPACE DIGIT ZERO;3ONE;3TWO;3THREE;3FOUR;3FIVE;3SIX;3SEVEN;3EIGHT;3NINE;
0SIGNWRITING HAND-FIST INDEX;1HAND-CIRCLE INDEX;1HAND-CUP INDEX;1HAND-OVAL INDEX;1HAND-HINGE INDEX;
1HAND-ANGLE INDEX;1HAND-FIST INDEX BENT;1HAND-CIRCLE INDEX BENT;1HAND-FIST THUMB UNDER INDEX BENT;
2INDEX RAISED KNUCKLE;3CUPPED;3HINGED;4LOW;1HAND-CIRCLE INDEX HINGE;1HAND-FIST INDEX MIDDLE;
1HAND-CIRCLE INDEX MIDDLE;1HAND-FIST INDEX MIDDLE BENT;4RAISED KNUCKLES;4HINGED;3UP MIDDLE HINGED;
3HINGED MIDDLE UP;3MIDDLE CONJOINED;5INDEX BENT;5MIDDLE BENT;5CUPPED;5HINGED;4CROSSED;
1HAND-CIRCLE INDEX MIDDLE CROSSED;1HAND-FIST MIDDLE BENT OVER INDEX;2INDEX BENT OVER MIDDLE;
3MIDDLE THUMB;1HAND-CIRCLE INDEX MIDDLE THUMB;1HAND-FIST INDEX MIDDLE STRAIGHT THUMB BENT;
4BENT THUMB STRAIGHT;4THUMB BENT;4HINGED SPREAD THUMB SIDE;3UP MIDDLE HINGED THUMB SIDE;7CONJOINED;
3HINGED MIDDLE UP THUMB SIDE;3MIDDLE UP SPREAD THUMB FORWARD;4THUMB CUPPED;5CIRCLED;5HOOKED;5HINGED;
2THUMB BETWEEN INDEX MIDDLE STRAIGHT;2INDEX MIDDLE CONJOINED THUMB SIDE;7CONJOINED;7BENT;
2MIDDLE THUMB HOOKED INDEX UP;2INDEX THUMB HOOKED MIDDLE UP;3MIDDLE CONJOINED HINGED THUMB SIDE;
4CROSSED THUMB SIDE;4CONJOINED THUMB FORWARD;5CUPPED THUMB FORWARD;2MIDDLE THUMB CUPPED INDEX UP;
2INDEX THUMB CUPPED MIDDLE UP;2MIDDLE THUMB CIRCLED INDEX UP;6HINGED;
2INDEX THUMB ANGLED OUT MIDDLE UP;5IN MIDDLE UP;4CIRCLED MIDDLE UP;3MIDDLE THUMB CONJOINED HINGED;
5ANGLED OUT;5ANGLED;2MIDDLE THUMB ANGLED OUT INDEX UP;7CROSSED;5INDEX UP;
2INDEX THUMB HOOKED MIDDLE HINGED;1HAND-FLAT FOUR FINGERS;4BENT;4HINGED;4CONJOINED;5SPLIT;
1HAND-CLAW FOUR FINGERS CONJOINED;1HAND-FIST FOUR FINGERS CONJOINED BENT;
1HAND-HINGE FOUR FINGERS CONJOINED;1HAND-FLAT FIVE FINGERS SPREAD;2HEEL FIVE FINGERS SPREAD;
2FIVE FINGERS SPREAD FOUR BENT;2HEEL FIVE FINGERS SPREAD FOUR BENT;2FIVE FINGERS SPREAD BENT;
2HEEL FIVE FINGERS SPREAD BENT;2FIVE FINGERS SPREAD THUMB FORWARD;1HAND-CUP FIVE FINGERS SPREAD;
5OPEN;1HAND-HINGE FIVE FINGERS SPREAD OPEN;1HAND-OVAL FIVE FINGERS SPREAD;
1HAND-FLAT FIVE FINGERS SPREAD HINGED;6THUMB SIDE;6NO THUMB;1HAND-FLAT;2BETWEEN PALM FACINGS;2HEEL;
2THUMB SIDE;2HEEL THUMB SIDE;2THUMB BENT;3FORWARD;2SPLIT INDEX THUMB SIDE;3CENTRE;4THUMB SIDE;6BENT;
3LITTLE;1HAND-CLAW;2THUMB SIDE;2NO THUMB;2THUMB FORWARD;1HAND-HOOK CURLICUE;1HAND-HOOK;
1HAND-CUP OPEN;1HAND-CUP;2OPEN THUMB SIDE;2THUMB SIDE;2OPEN NO THUMB;2NO THUMB;2OPEN THUMB FORWARD;
2THUMB FORWARD;1HAND-CURLICUE OPEN;1HAND-CURLICUE;1HAND-CIRCLE;1HAND-OVAL;2THUMB SIDE;2NO THUMB;
2THUMB FORWARD;1HAND-HINGE OPEN;3THUMB FORWARD;1HAND-HINGE;2SMALL;2OPEN THUMB SIDE;2THUMB SIDE;
2OPEN NO THUMB;2NO THUMB;2THUMB SIDE TOUCHING INDEX;3BETWEEN MIDDLE RING;1HAND-ANGLE;
1HAND-FIST INDEX MIDDLE RING;1HAND-CIRCLE INDEX MIDDLE RING;1HAND-HINGE INDEX MIDDLE RING;
1HAND-ANGLE INDEX MIDDLE RING;1HAND-HINGE LITTLE;1HAND-FIST INDEX MIDDLE RING BENT;5CONJOINED;
1HAND-HINGE INDEX MIDDLE RING CONJOINED;1HAND-FIST LITTLE DOWN;4RIPPLE STRAIGHT;5CURVED;
4OTHERS CIRCLED;3UP;2THUMB UNDER LITTLE UP;1HAND-CIRCLE LITTLE UP;1HAND-OVAL LITTLE UP;
1HAND-ANGLE LITTLE UP;1HAND-FIST LITTLE RAISED KNUCKLE;3BENT;3TOUCHES THUMB;3THUMB;
1HAND-HINGE LITTLE THUMB;1HAND-FIST LITTLE INDEX THUMB;1HAND-HINGE LITTLE INDEX THUMB;
1HAND-ANGLE LITTLE INDEX THUMB INDEX THUMB OUT;6THUMB;1HAND-FIST LITTLE INDEX;
1HAND-CIRCLE LITTLE INDEX;1HAND-HINGE LITTLE INDEX;1HAND-ANGLE LITTLE INDEX;
1HAND-FIST INDEX MIDDLE LITTLE;1HAND-CIRCLE INDEX MIDDLE LITTLE;1HAND-HINGE INDEX MIDDLE LITTLE;
2RING;1HAND-ANGLE INDEX MIDDLE LITTLE;1HAND-FIST INDEX MIDDLE CROSS LITTLE;
1HAND-CIRCLE INDEX MIDDLE CROSS LITTLE;1HAND-FIST RING DOWN;
1HAND-HINGE RING DOWN INDEX THUMB HOOK MIDDLE;1HAND-ANGLE RING DOWN MIDDLE THUMB INDEX CROSS;
1HAND-FIST RING UP;3RAISED KNUCKLE;3LITTLE;1HAND-CIRCLE RING LITTLE;1HAND-OVAL RING LITTLE;
1HAND-ANGLE RING LITTLE;1HAND-FIST RING MIDDLE;4CONJOINED;4RAISED KNUCKLES;3INDEX;3THUMB;
1HAND-HOOK RING THUMB;1HAND-FIST INDEX RING LITTLE;1HAND-CIRCLE INDEX RING LITTLE;
1HAND-CURLICUE INDEX RING LITTLE ON;1HAND-HOOK INDEX RING LITTLE OUT;5IN;5UNDER;
1HAND-CUP INDEX RING LITTLE;1HAND-HINGE INDEX RING LITTLE;1HAND-ANGLE INDEX RING LITTLE OUT;4LITTLE;
1HAND-FIST MIDDLE DOWN;1HAND-HINGE MIDDLE;1HAND-FIST MIDDLE UP;1HAND-CIRCLE MIDDLE UP;
1HAND-FIST MIDDLE RAISED KNUCKLE;3UP THUMB SIDE;1HAND-HOOK MIDDLE THUMB;
1HAND-FIST MIDDLE THUMB LITTLE;3LITTLE;3RING LITTLE;1HAND-CIRCLE MIDDLE RING LITTLE;
1HAND-CURLICUE MIDDLE RING LITTLE ON;1HAND-CUP MIDDLE RING LITTLE;1HAND-HINGE MIDDLE RING LITTLE;
1HAND-ANGLE MIDDLE RING LITTLE OUT;5IN;4LITTLE;1HAND-CIRCLE MIDDLE RING LITTLE BENT;
1HAND-CLAW MIDDLE RING LITTLE CONJOINED;6SIDE;1HAND-HOOK MIDDLE RING LITTLE CONJOINED OUT;6IN;
5CONJOINED;1HAND-HINGE INDEX HINGED;1HAND-FIST INDEX THUMB SIDE;1HAND-HINGE INDEX THUMB SIDE;
1HAND-FIST INDEX THUMB SIDE THUMB DIAGONAL;6CONJOINED;6BENT;5INDEX BENT;5BOTH BENT;5INDEX HINGE;
4FORWARD INDEX STRAIGHT;6BENT;4HOOK;4CURLICUE;4CURVE THUMB INSIDE;
1HAND-CLAW INDEX THUMB CURVE THUMB INSIDE;1HAND-FIST INDEX THUMB CURVE THUMB UNDER;4CIRCLE;
1HAND-CUP INDEX THUMB;4OPEN;1HAND-HINGE INDEX THUMB OPEN;4LARGE;3THUMB;4SMALL;
1HAND-ANGLE INDEX THUMB OUT;4IN;3THUMB;1HAND-FIST THUMB;3HEEL;3SIDE DIAGONAL;4CONJOINED;4BENT;
3FORWARD;3BETWEEN INDEX MIDDLE;4MIDDLE RING;4RING LITTLE;3UNDER TWO FINGERS;3OVER TWO FINGERS;
3UNDER THREE FINGERS;4FOUR FINGERS;3OVER FOUR RAISED KNUCKLES;1HAND-FIST;2HEEL;1TOUCH SINGLE;
2MULTIPLE;2BETWEEN;1GRASP SINGLE;2MULTIPLE;2BETWEEN;1STRIKE SINGLE;2MULTIPLE;2BETWEEN;1BRUSH SINGLE;
2MULTIPLE;2BETWEEN;1RUB SINGLE;2MULTIPLE;2BETWEEN;1SURFACE SYMBOLS;2BETWEEN;1SQUEEZE LARGE SINGLE;
2SMALL SINGLE;2LARGE MULTIPLE;2SMALL MULTIPLE;2SEQUENTIAL;1FLICK LARGE SINGLE;2SMALL SINGLE;
2LARGE MULTIPLE;2SMALL MULTIPLE;2SEQUENTIAL;1SQUEEZE FLICK ALTERNATING;
1MOVEMENT-HINGE UP DOWN LARGE;4SMALL;3SEQUENTIAL;2DOWN SEQUENTIAL;2UP DOWN ALTERNATING LARGE;5SMALL;
2SIDE TO SIDE SCISSORS;1MOVEMENT-WALLPLANE FINGER CONTACT;1MOVEMENT-FLOORPLANE FINGER CONTACT;
1MOVEMENT-WALLPLANE SINGLE STRAIGHT SMALL;4MEDIUM;4LARGE;4LARGEST;3WRIST FLEX;2DOUBLE STRAIGHT;
3WRIST FLEX;3ALTERNATING;4WRIST FLEX;2CROSS;2TRIPLE STRAIGHT MOVEMENT;3WRIST FLEX;3ALTERNATING;
4WRIST FLEX;2BEND SMALL;3MEDIUM;3LARGE;2CORNER SMALL;3MEDIUM;3LARGE;3ROTATION;2CHECK SMALL;3MEDIUM;
3LARGE;2BOX SMALL;3MEDIUM;3LARGE;2ZIGZAG SMALL;3MEDIUM;3LARGE;2PEAKS SMALL;3MEDIUM;3LARGE;
1TRAVEL-WALLPLANE ROTATION-WALLPLANE SINGLE;3DOUBLE;3ALTERNATING;2ROTATION-FLOORPLANE SINGLE;
3DOUBLE;3ALTERNATING;2SHAKING;2ARM SPIRAL SINGLE;4DOUBLE;4TRIPLE;1MOVEMENT-DIAGONAL AWAY SMALL;
3MEDIUM;3LARGE;3LARGEST;2TOWARDS SMALL;3MEDIUM;3LARGE;3LARGEST;2BETWEEN AWAY SMALL;4MEDIUM;4LARGE;
4LARGEST;3TOWARDS SMALL;4MEDIUM;4LARGE;4LARGEST;1MOVEMENT-FLOORPLANE SINGLE STRAIGHT SMALL;4MEDIUM;
4LARGE;4LARGEST;3WRIST FLEX;2DOUBLE STRAIGHT;3WRIST FLEX;3ALTERNATING;4WRIST FLEX;2CROSS;
2TRIPLE STRAIGHT MOVEMENT;3WRIST FLEX;3ALTERNATING MOVEMENT;4WRIST FLEX;2BEND;2CORNER SMALL;3MEDIUM;
3LARGE;2CHECK;2BOX SMALL;3MEDIUM;3LARGE;2ZIGZAG SMALL;3MEDIUM;3LARGE;2PEAKS SMALL;3MEDIUM;3LARGE;
1TRAVEL-FLOORPLANE ROTATION-FLOORPLANE SINGLE;3DOUBLE;3ALTERNATING;2ROTATION-WALLPLANE SINGLE;
3DOUBLE;3ALTERNATING;2SHAKING;1MOVEMENT-WALLPLANE CURVE QUARTER SMALL;4MEDIUM;4LARGE;4LARGEST;
3HALF-CIRCLE SMALL;4MEDIUM;4LARGE;4LARGEST;3THREE-QUARTER CIRCLE SMALL;5MEDIUM;2HUMP SMALL;3MEDIUM;
3LARGE;2LOOP SMALL;3MEDIUM;3LARGE;3SMALL DOUBLE;2WAVE CURVE DOUBLE SMALL;5MEDIUM;5LARGE;
4TRIPLE SMALL;5MEDIUM;5LARGE;2CURVE THEN STRAIGHT;2CURVED CROSS SMALL;4MEDIUM;
1ROTATION-WALLPLANE SINGLE;2DOUBLE;2ALTERNATE;1MOVEMENT-WALLPLANE SHAKING;2CURVE HITTING FRONT WALL;
2HUMP HITTING FRONT WALL;2LOOP HITTING FRONT WALL;2WAVE HITTING FRONT WALL;
1ROTATION-WALLPLANE SINGLE HITTING FRONT WALL;2DOUBLE HITTING FRONT WALL;
2ALTERNATING HITTING FRONT WALL;1MOVEMENT-WALLPLANE CURVE HITTING CHEST;2HUMP HITTING CHEST;
2LOOP HITTING CHEST;2WAVE HITTING CHEST;1ROTATION-WALLPLANE SINGLE HITTING CHEST;
2DOUBLE HITTING CHEST;2ALTERNATING HITTING CHEST;1MOVEMENT-WALLPLANE WAVE DIAGONAL PATH SMALL;
5MEDIUM;5LARGE;1MOVEMENT-FLOORPLANE CURVE HITTING CEILING SMALL;5LARGE;
2HUMP HITTING CEILING SMALL DOUBLE;5LARGE DOUBLE;5SMALL TRIPLE;5LARGE TRIPLE;
2LOOP HITTING CEILING SMALL SINGLE;5LARGE SINGLE;5SMALL DOUBLE;5LARGE DOUBLE;
2WAVE HITTING CEILING SMALL;5LARGE;1ROTATION-FLOORPLANE SINGLE HITTING CEILING;
2DOUBLE HITTING CEILING;2ALTERNATING HITTING CEILING;1MOVEMENT-FLOORPLANE CURVE HITTING FLOOR SMALL;
5LARGE;2HUMP HITTING FLOOR SMALL DOUBLE;5LARGE DOUBLE;5TRIPLE SMALL TRIPLE;6LARGE TRIPLE;
2LOOP HITTING FLOOR SMALL SINGLE;5LARGE SINGLE;5SMALL DOUBLE;5LARGE DOUBLE;
2WAVE HITTING FLOOR SMALL;5LARGE;1ROTATION-FLOORPLANE SINGLE HITTING FLOOR;2DOUBLE HITTING FLOOR;
2ALTERNATING HITTING FLOOR;1MOVEMENT-FLOORPLANE CURVE SMALL;3MEDIUM;3LARGE;3LARGEST;3COMBINED;
2HUMP SMALL;2LOOP SMALL;2WAVE SNAKE;3SMALL;3LARGE;1ROTATION-FLOORPLANE SINGLE;2DOUBLE;2ALTERNATING;
1MOVEMENT-FLOORPLANE SHAKING PARALLEL;1MOVEMENT-WALLPLANE ARM CIRCLE SMALL SINGLE;4MEDIUM SINGLE;
4SMALL DOUBLE;4MEDIUM DOUBLE;1MOVEMENT-FLOORPLANE ARM CIRCLE HITTING WALL SMALL SINGLE;
6MEDIUM SINGLE;6LARGE SINGLE;6SMALL DOUBLE;6MEDIUM DOUBLE;6LARGE DOUBLE;
1MOVEMENT-WALLPLANE WRIST CIRCLE FRONT SINGLE;5DOUBLE;
1MOVEMENT-FLOORPLANE WRIST CIRCLE HITTING WALL SINGLE;6DOUBLE;
1MOVEMENT-WALLPLANE FINGER CIRCLES SINGLE;4DOUBLE;
1MOVEMENT-FLOORPLANE FINGER CIRCLES HITTING WALL SINGLE;6DOUBLE;1DYNAMIC ARROWHEAD SMALL;3LARGE;
2FAST;2SLOW;2TENSE;2RELAXED;2SIMULTANEOUS;3ALTERNATING;2EVERY OTHER TIME;2GRADUAL;1HEAD;2RIM;
2MOVEMENT-WALLPLANE STRAIGHT;3TILT;2MOVEMENT-FLOORPLANE STRAIGHT;2MOVEMENT-WALLPLANE CURVE;
2MOVEMENT-FLOORPLANE CURVE;2MOVEMENT CIRCLE;1FACE DIRECTION POSITION NOSE FORWARD TILTING;
5UP OR DOWN;8TILTING;1EYEBROWS STRAIGHT UP;3NEUTRAL;3DOWN;1DREAMY EYEBROWS NEUTRAL DOWN;
3DOWN NEUTRAL;3UP NEUTRAL;3NEUTRAL UP;1FOREHEAD NEUTRAL;2CONTACT;2WRINKLED;1EYES OPEN;2SQUEEZED;
2CLOSED;1EYE BLINK SINGLE;3MULTIPLE;1EYES HALF OPEN;2WIDE OPEN;2HALF CLOSED;2WIDENING MOVEMENT;
1EYE WINK;1EYELASHES UP;2DOWN;2FLUTTERING;1EYEGAZE-WALLPLANE STRAIGHT;3DOUBLE;3ALTERNATING;
1EYEGAZE-FLOORPLANE STRAIGHT;3DOUBLE;3ALTERNATING;1EYEGAZE-WALLPLANE CURVED;
1EYEGAZE-FLOORPLANE CURVED;1EYEGAZE-WALLPLANE CIRCLING;1CHEEKS PUFFED;2NEUTRAL;2SUCKED;
1TENSE CHEEKS HIGH;3MIDDLE;3LOW;1EARS;1NOSE NEUTRAL;2CONTACT;2WRINKLES;2WIGGLES;1AIR BLOWING OUT;
2SUCKING IN;2BLOW SMALL ROTATIONS;2SUCK SMALL ROTATIONS;1BREATH INHALE;2EXHALE;
1MOUTH CLOSED NEUTRAL;3FORWARD;3CONTACT;2SMILE;3WRINKLED;3OPEN;2FROWN;3WRINKLED;3OPEN;2OPEN CIRCLE;
3FORWARD;3WRINKLED;3OVAL;4WRINKLED;4YAWN;3RECTANGLE;4WRINKLED;4YAWN;2KISS;3FORWARD;3WRINKLED;2TENSE;
3FORWARD;3SUCKED;1LIPS PRESSED TOGETHER;1LIP LOWER OVER UPPER;2UPPER OVER LOWER;1MOUTH CORNERS;
2WRINKLES SINGLE;3DOUBLE;1TONGUE STICKING OUT FAR;2LICKING LIPS;2TIP BETWEEN LIPS;
3TOUCHING INSIDE MOUTH;2INSIDE MOUTH RELAXED;2MOVES AGAINST CHEEK;2CENTRE STICKING OUT;
3INSIDE MOUTH;1TEETH;2MOVEMENT;2ON TONGUE;4MOVEMENT;3LIPS;4MOVEMENT;2BITE LIPS;
1MOVEMENT-WALLPLANE JAW;1MOVEMENT-FLOORPLANE JAW;1NECK;1HAIR;1EXCITEMENT;1SHOULDER HIP SPINE;
3POSITIONS;1WALLPLANE SHOULDER HIP MOVE;1FLOORPLANE SHOULDER HIP MOVE;1SHOULDER TILTING FROM WAIST;
1TORSO-WALLPLANE STRAIGHT STRETCH;2CURVED BEND;1TORSO-FLOORPLANE TWISTING;
1UPPER BODY TILTING FROM HIP JOINTS;1LIMB COMBINATION;2LENGTH-1;2LENGTH-2;2LENGTH-3;2LENGTH-4;
2LENGTH-5;2LENGTH-6;2LENGTH-7;1FINGER;1LOCATION-WALLPLANE SPACE;1LOCATION-FLOORPLANE SPACE;
1LOCATION HEIGHT;2WIDTH;2DEPTH;2HEAD NECK;2TORSO;2LIMBS DIGITS;1COMMA;1FULL STOP;1SEMICOLON;1COLON;
1PARENTHESIS;=1DA9B;1FILL MODIFIER-2;2MODIFIER-3;2MODIFIER-4;2MODIFIER-5;2MODIFIER-6;=1DAA1;
1ROTATION MODIFIER-2;2MODIFIER-3;2MODIFIER-4;2MODIFIER-5;2MODIFIER-6;2MODIFIER-7;2MODIFIER-8;
2MODIFIER-9;2MODIFIER-10;2MODIFIER-11;2MODIFIER-12;2MODIFIER-13;2MODIFIER-14;2MODIFIER-15;
2MODIFIER-16;"

/-- Names of pictures and the symbols around them. -/
def pictureNames : String := "
=1F000;0MAHJONG TILE EAST WIND;2SOUTH WIND;2WEST WIND;2NORTH WIND;2RED DRAGON;2GREEN DRAGON;
2WHITE DRAGON;2ONE OF CHARACTERS;2TWO OF CHARACTERS;2THREE OF CHARACTERS;2FOUR OF CHARACTERS;
2FIVE OF CHARACTERS;2SIX OF CHARACTERS;2SEVEN OF CHARACTERS;2EIGHT OF CHARACTERS;
2NINE OF CHARACTERS;2ONE OF BAMBOOS;2TWO OF BAMBOOS;2THREE OF BAMBOOS;2FOUR OF BAMBOOS;
2FIVE OF BAMBOOS;2SIX OF BAMBOOS;2SEVEN OF BAMBOOS;2EIGHT OF BAMBOOS;2NINE OF BAMBOOS;
2ONE OF CIRCLES;2TWO OF CIRCLES;2THREE OF CIRCLES;2FOUR OF CIRCLES;2FIVE OF CIRCLES;2SIX OF CIRCLES;
2SEVEN OF CIRCLES;2EIGHT OF CIRCLES;2NINE OF CIRCLES;2PLUM;2ORCHID;2BAMBOO;2CHRYSANTHEMUM;2SPRING;
2SUMMER;2AUTUMN;2WINTER;2JOKER;2BACK;=1F030;0DOMINO TILE HORIZONTAL BACK;2HORIZONTAL-00-00;
2HORIZONTAL-00-01;2HORIZONTAL-00-02;2HORIZONTAL-00-03;2HORIZONTAL-00-04;2HORIZONTAL-00-05;
2HORIZONTAL-00-06;2HORIZONTAL-01-00;2HORIZONTAL-01-01;2HORIZONTAL-01-02;2HORIZONTAL-01-03;
2HORIZONTAL-01-04;2HORIZONTAL-01-05;2HORIZONTAL-01-06;2HORIZONTAL-02-00;2HORIZONTAL-02-01;
2HORIZONTAL-02-02;2HORIZONTAL-02-03;2HORIZONTAL-02-04;2HORIZONTAL-02-05;2HORIZONTAL-02-06;
2HORIZONTAL-03-00;2HORIZONTAL-03-01;2HORIZONTAL-03-02;2HORIZONTAL-03-03;2HORIZONTAL-03-04;
2HORIZONTAL-03-05;2HORIZONTAL-03-06;2HORIZONTAL-04-00;2HORIZONTAL-04-01;2HORIZONTAL-04-02;
2HORIZONTAL-04-03;2HORIZONTAL-04-04;2HORIZONTAL-04-05;2HORIZONTAL-04-06;2HORIZONTAL-05-00;
2HORIZONTAL-05-01;2HORIZONTAL-05-02;2HORIZONTAL-05-03;2HORIZONTAL-05-04;2HORIZONTAL-05-05;
2HORIZONTAL-05-06;2HORIZONTAL-06-00;2HORIZONTAL-06-01;2HORIZONTAL-06-02;2HORIZONTAL-06-03;
2HORIZONTAL-06-04;2HORIZONTAL-06-05;2HORIZONTAL-06-06;2VERTICAL BACK;2VERTICAL-00-00;
2VERTICAL-00-01;2VERTICAL-00-02;2VERTICAL-00-03;2VERTICAL-00-04;2VERTICAL-00-05;2VERTICAL-00-06;
2VERTICAL-01-00;2VERTICAL-01-01;2VERTICAL-01-02;2VERTICAL-01-03;2VERTICAL-01-04;2VERTICAL-01-05;
2VERTICAL-01-06;2VERTICAL-02-00;2VERTICAL-02-01;2VERTICAL-02-02;2VERTICAL-02-03;2VERTICAL-02-04;
2VERTICAL-02-05;2VERTICAL-02-06;2VERTICAL-03-00;2VERTICAL-03-01;2VERTICAL-03-02;2VERTICAL-03-03;
2VERTICAL-03-04;2VERTICAL-03-05;2VERTICAL-03-06;2VERTICAL-04-00;2VERTICAL-04-01;2VERTICAL-04-02;
2VERTICAL-04-03;2VERTICAL-04-04;2VERTICAL-04-05;2VERTICAL-04-06;2VERTICAL-05-00;2VERTICAL-05-01;
2VERTICAL-05-02;2VERTICAL-05-03;2VERTICAL-05-04;2VERTICAL-05-05;2VERTICAL-05-06;2VERTICAL-06-00;
2VERTICAL-06-01;2VERTICAL-06-02;2VERTICAL-06-03;2VERTICAL-06-04;2VERTICAL-06-05;2VERTICAL-06-06;
=1F0A0;0PLAYING CARD BACK;2ACE OF SPADES;2TWO OF SPADES;2THREE OF SPADES;2FOUR OF SPADES;
2FIVE OF SPADES;2SIX OF SPADES;2SEVEN OF SPADES;2EIGHT OF SPADES;2NINE OF SPADES;2TEN OF SPADES;
2JACK OF SPADES;2KNIGHT OF SPADES;2QUEEN OF SPADES;2KING OF SPADES;=1F0B1;2ACE OF HEARTS;
2TWO OF HEARTS;2THREE OF HEARTS;2FOUR OF HEARTS;2FIVE OF HEARTS;2SIX OF HEARTS;2SEVEN OF HEARTS;
2EIGHT OF HEARTS;2NINE OF HEARTS;2TEN OF HEARTS;2JACK OF HEARTS;2KNIGHT OF HEARTS;2QUEEN OF HEARTS;
2KING OF HEARTS;2RED JOKER;=1F0C1;2ACE OF DIAMONDS;2TWO OF DIAMONDS;2THREE OF DIAMONDS;
2FOUR OF DIAMONDS;2FIVE OF DIAMONDS;2SIX OF DIAMONDS;2SEVEN OF DIAMONDS;2EIGHT OF DIAMONDS;
2NINE OF DIAMONDS;2TEN OF DIAMONDS;2JACK OF DIAMONDS;2KNIGHT OF DIAMONDS;2QUEEN OF DIAMONDS;
2KING OF DIAMONDS;2BLACK JOKER;=1F0D1;2ACE OF CLUBS;2TWO OF CLUBS;2THREE OF CLUBS;2FOUR OF CLUBS;
2FIVE OF CLUBS;2SIX OF CLUBS;2SEVEN OF CLUBS;2EIGHT OF CLUBS;2NINE OF CLUBS;2TEN OF CLUBS;
2JACK OF CLUBS;2KNIGHT OF CLUBS;2QUEEN OF CLUBS;2KING OF CLUBS;2WHITE JOKER;2FOOL;2TRUMP-1;2TRUMP-2;
2TRUMP-3;2TRUMP-4;2TRUMP-5;2TRUMP-6;2TRUMP-7;2TRUMP-8;2TRUMP-9;2TRUMP-10;2TRUMP-11;2TRUMP-12;
2TRUMP-13;2TRUMP-14;2TRUMP-15;2TRUMP-16;2TRUMP-17;2TRUMP-18;2TRUMP-19;2TRUMP-20;2TRUMP-21;=1F100;
0DIGIT ZERO FULL STOP;2COMMA;1ONE COMMA;1TWO COMMA;1THREE COMMA;1FOUR COMMA;1FIVE COMMA;1SIX COMMA;
1SEVEN COMMA;1EIGHT COMMA;1NINE COMMA;0DINGBAT CIRCLED SANS-SERIF DIGIT ZERO;
1NEGATIVE CIRCLED SANS-SERIF DIGIT ZERO;0CIRCLED ZERO WITH SLASH;1ANTICLOCKWISE ARROW;
1DOLLAR SIGN WITH OVERLAID BACKSLASH;0PARENTHESIZED LATIN CAPITAL LETTER A;4B;4C;4D;4E;4F;4G;4H;4I;
4J;4K;4L;4M;4N;4O;4P;4Q;4R;4S;4T;4U;4V;4W;4X;4Y;4Z;0TORTOISE SHELL BRACKETED LATIN CAPITAL LETTER S;
0CIRCLED ITALIC LATIN CAPITAL LETTER C;5R;1CD;1WZ;0COPYLEFT SYMBOL;0SQUARED LATIN CAPITAL LETTER A;
4B;4C;4D;4E;4F;4G;4H;4I;4J;4K;4L;4M;4N;4O;4P;4Q;4R;4S;4T;4U;4V;4W;4X;4Y;4Z;1HV;1MV;1SD;1SS;1PPV;1WC;
0NEGATIVE CIRCLED LATIN CAPITAL LETTER A;5B;5C;5D;5E;5F;5G;5H;5I;5J;5K;5L;5M;5N;5O;5P;5Q;5R;5S;5T;
5U;5V;5W;5X;5Y;5Z;0RAISED MC SIGN;1MD SIGN;1MR SIGN;0CIRCLED CC;1C WITH OVERLAID BACKSLASH;
1HUMAN FIGURE;0NEGATIVE SQUARED LATIN CAPITAL LETTER A;5B;5C;5D;5E;5F;5G;5H;5I;5J;5K;5L;5M;5N;5O;5P;
5Q;5R;5S;5T;5U;5V;5W;5X;5Y;5Z;0CROSSED NEGATIVE SQUARED LATIN CAPITAL LETTER P;0NEGATIVE SQUARED IC;
2PA;2SA;2AB;2WC;0SQUARE DJ;0SQUARED CL;1COOL;1FREE;1ID;1NEW;1NG;1OK;1SOS;1UP WITH EXCLAMATION MARK;
1VS;1THREE D;1SECOND SCREEN;1TWO K;1FOUR K;1EIGHT K;1FIVE POINT ONE;1SEVEN POINT ONE;
1TWENTY-TWO POINT TWO;1SIXTY P;1ONE HUNDRED TWENTY P;1LATIN SMALL LETTER D;1HC;1HDR;1HI-RES;
1LOSSLESS;1SHV;1UHD;1VOD;0MASK WORK SYMBOL;=1F1E6;0REGIONAL INDICATOR SYMBOL LETTER A;4B;4C;4D;4E;
4F;4G;4H;4I;4J;4K;4L;4M;4N;4O;4P;4Q;4R;4S;4T;4U;4V;4W;4X;4Y;4Z;0SQUARE HIRAGANA HOKA;
0SQUARED KATAKANA KOKO;2SA;=1F210;1CJK UNIFIED IDEOGRAPH-624B;3IDEOGRAPH-5B57;3IDEOGRAPH-53CC;
1KATAKANA DE;1CJK UNIFIED IDEOGRAPH-4E8C;3IDEOGRAPH-591A;3IDEOGRAPH-89E3;3IDEOGRAPH-5929;
3IDEOGRAPH-4EA4;3IDEOGRAPH-6620;3IDEOGRAPH-7121;3IDEOGRAPH-6599;3IDEOGRAPH-524D;3IDEOGRAPH-5F8C;
3IDEOGRAPH-518D;3IDEOGRAPH-65B0;3IDEOGRAPH-521D;3IDEOGRAPH-7D42;3IDEOGRAPH-751F;3IDEOGRAPH-8CA9;
3IDEOGRAPH-58F0;3IDEOGRAPH-5439;3IDEOGRAPH-6F14;3IDEOGRAPH-6295;3IDEOGRAPH-6355;3IDEOGRAPH-4E00;
3IDEOGRAPH-4E09;3IDEOGRAPH-904A;3IDEOGRAPH-5DE6;3IDEOGRAPH-4E2D;3IDEOGRAPH-53F3;3IDEOGRAPH-6307;
3IDEOGRAPH-8D70;3IDEOGRAPH-6253;3IDEOGRAPH-7981;3IDEOGRAPH-7A7A;3IDEOGRAPH-5408;3IDEOGRAPH-6E80;
3IDEOGRAPH-6709;3IDEOGRAPH-6708;3IDEOGRAPH-7533;3IDEOGRAPH-5272;3IDEOGRAPH-55B6;3IDEOGRAPH-914D;
=1F240;0TORTOISE SHELL BRACKETED CJK UNIFIED IDEOGRAPH-672C;5IDEOGRAPH-4E09;5IDEOGRAPH-4E8C;
5IDEOGRAPH-5B89;5IDEOGRAPH-70B9;5IDEOGRAPH-6253;5IDEOGRAPH-76D7;5IDEOGRAPH-52DD;5IDEOGRAPH-6557;
=1F250;0CIRCLED IDEOGRAPH ADVANTAGE;2ACCEPT;=1F260;0ROUNDED SYMBOL FOR FU;3LU;3SHOU;3XI;3SHUANGXI;
3CAI;=1F300;0CYCLONE;0FOGGY;0CLOSED UMBRELLA;0NIGHT WITH STARS;0SUNRISE OVER MOUNTAINS;0SUNRISE;
0CITYSCAPE AT DUSK;0SUNSET OVER BUILDINGS;0RAINBOW;0BRIDGE AT NIGHT;0WATER WAVE;0VOLCANO;0MILKY WAY;
0EARTH GLOBE EUROPE-AFRICA;2AMERICAS;2ASIA-AUSTRALIA;0GLOBE WITH MERIDIANS;0NEW MOON SYMBOL;
0WAXING CRESCENT MOON SYMBOL;0FIRST QUARTER MOON SYMBOL;0WAXING GIBBOUS MOON SYMBOL;
0FULL MOON SYMBOL;0WANING GIBBOUS MOON SYMBOL;0LAST QUARTER MOON SYMBOL;
0WANING CRESCENT MOON SYMBOL;0CRESCENT MOON;0NEW MOON WITH FACE;0FIRST QUARTER MOON WITH FACE;
0LAST QUARTER MOON WITH FACE;0FULL MOON WITH FACE;0SUN WITH FACE;0GLOWING STAR;0SHOOTING STAR;
0THERMOMETER;0BLACK DROPLET;0WHITE SUN;2WITH SMALL CLOUD;2BEHIND CLOUD;4WITH RAIN;0CLOUD WITH RAIN;
2SNOW;2LIGHTNING;2TORNADO;0FOG;0WIND BLOWING FACE;0HOT DOG;0TACO;0BURRITO;0CHESTNUT;0SEEDLING;
0EVERGREEN TREE;0DECIDUOUS TREE;0PALM TREE;0CACTUS;0HOT PEPPER;0TULIP;0CHERRY BLOSSOM;0ROSE;
0HIBISCUS;0SUNFLOWER;0BLOSSOM;0EAR OF MAIZE;2RICE;0HERB;0FOUR LEAF CLOVER;0MAPLE LEAF;0FALLEN LEAF;
0LEAF FLUTTERING IN WIND;0MUSHROOM;0TOMATO;0AUBERGINE;0GRAPES;0MELON;0WATERMELON;0TANGERINE;0LEMON;
0BANANA;0PINEAPPLE;0RED APPLE;0GREEN APPLE;0PEAR;0PEACH;0CHERRIES;0STRAWBERRY;0HAMBURGER;
0SLICE OF PIZZA;0MEAT ON BONE;0POULTRY LEG;0RICE CRACKER;1BALL;0COOKED RICE;0CURRY AND RICE;
0STEAMING BOWL;0SPAGHETTI;0BREAD;0FRENCH FRIES;0ROASTED SWEET POTATO;0DANGO;0ODEN;0SUSHI;
0FRIED SHRIMP;0FISH CAKE WITH SWIRL DESIGN;0SOFT ICE CREAM;0SHAVED ICE;0ICE CREAM;0DOUGHNUT;0COOKIE;
0CHOCOLATE BAR;0CANDY;0LOLLIPOP;0CUSTARD;0HONEY POT;0SHORTCAKE;0BENTO BOX;0POT OF FOOD;0COOKING;
0FORK AND KNIFE;0TEACUP WITHOUT HANDLE;0SAKE BOTTLE AND CUP;0WINE GLASS;0COCKTAIL GLASS;
0TROPICAL DRINK;0BEER MUG;0CLINKING BEER MUGS;0BABY BOTTLE;0FORK AND KNIFE WITH PLATE;
0BOTTLE WITH POPPING CORK;0POPCORN;0RIBBON;0WRAPPED PRESENT;0BIRTHDAY CAKE;0JACK-O-LANTERN;
0CHRISTMAS TREE;0FATHER CHRISTMAS;0FIREWORKS;0FIREWORK SPARKLER;0BALLOON;0PARTY POPPER;
0CONFETTI BALL;0TANABATA TREE;0CROSSED FLAGS;0PINE DECORATION;0JAPANESE DOLLS;0CARP STREAMER;
0WIND CHIME;0MOON VIEWING CEREMONY;0SCHOOL SATCHEL;0GRADUATION CAP;0HEART WITH TIP ON THE LEFT;
0BOUQUET OF FLOWERS;0MILITARY MEDAL;0REMINDER RIBBON;0MUSICAL KEYBOARD WITH JACKS;
0STUDIO MICROPHONE;0LEVEL SLIDER;0CONTROL KNOBS;0BEAMED ASCENDING MUSICAL NOTES;
1DESCENDING MUSICAL NOTES;0FILM FRAMES;0ADMISSION TICKETS;0CAROUSEL HORSE;0FERRIS WHEEL;
0ROLLER COASTER;0FISHING POLE AND FISH;0MICROPHONE;0MOVIE CAMERA;0CINEMA;0HEADPHONE;0ARTIST PALETTE;
0TOP HAT;0CIRCUS TENT;0TICKET;0CLAPPER BOARD;0PERFORMING ARTS;0VIDEO GAME;0DIRECT HIT;0SLOT MACHINE;
0BILLIARDS;0GAME DIE;0BOWLING;0FLOWER PLAYING CARDS;0MUSICAL NOTE;0MULTIPLE MUSICAL NOTES;
0SAXOPHONE;0GUITAR;0MUSICAL KEYBOARD;0TRUMPET;0VIOLIN;0MUSICAL SCORE;0RUNNING SHIRT WITH SASH;
0TENNIS RACQUET AND BALL;0SKI AND SKI BOOT;0BASKETBALL AND HOOP;0CHEQUERED FLAG;0SNOWBOARDER;
0RUNNER;0SURFER;0SPORTS MEDAL;0TROPHY;0HORSE RACING;0AMERICAN FOOTBALL;0RUGBY FOOTBALL;0SWIMMER;
0WEIGHT LIFTER;0GOLFER;0RACING MOTORCYCLE;1CAR;0CRICKET BAT AND BALL;0VOLLEYBALL;
0FIELD HOCKEY STICK AND BALL;0ICE HOCKEY STICK AND PUCK;0TABLE TENNIS PADDLE AND BALL;
0SNOW CAPPED MOUNTAIN;0CAMPING;0BEACH WITH UMBRELLA;0BUILDING CONSTRUCTION;0HOUSE BUILDINGS;
0CITYSCAPE;0DERELICT HOUSE BUILDING;0CLASSICAL BUILDING;0DESERT;1ISLAND;0NATIONAL PARK;0STADIUM;
0HOUSE BUILDING;1WITH GARDEN;0OFFICE BUILDING;0JAPANESE POST OFFICE;0EUROPEAN POST OFFICE;0HOSPITAL;
0BANK;0AUTOMATED TELLER MACHINE;0HOTEL;0LOVE HOTEL;0CONVENIENCE STORE;0SCHOOL;0DEPARTMENT STORE;
0FACTORY;0IZAKAYA LANTERN;0JAPANESE CASTLE;0EUROPEAN CASTLE;0WHITE PENNANT;0BLACK PENNANT;
0WAVING WHITE FLAG;1BLACK FLAG;0ROSETTE;0BLACK ROSETTE;0LABEL;0BADMINTON RACQUET AND SHUTTLECOCK;
0BOW AND ARROW;0AMPHORA;0EMOJI MODIFIER FITZPATRICK TYPE-1-2;3TYPE-3;3TYPE-4;3TYPE-5;3TYPE-6;0RAT;
0MOUSE;0OX;0WATER BUFFALO;0COW;0TIGER;0LEOPARD;0RABBIT;0CAT;0DRAGON;0CROCODILE;0WHALE;0SNAIL;0SNAKE;
0HORSE;0RAM;0GOAT;0SHEEP;0MONKEY;0ROOSTER;0CHICKEN;0DOG;0PIG;0BOAR;0ELEPHANT;0OCTOPUS;0SPIRAL SHELL;
0BUG;0ANT;0HONEYBEE;0LADY BEETLE;0FISH;0TROPICAL FISH;0BLOWFISH;0TURTLE;0HATCHING CHICK;0BABY CHICK;
0FRONT-FACING BABY CHICK;0BIRD;0PENGUIN;0KOALA;0POODLE;0DROMEDARY CAMEL;0BACTRIAN CAMEL;0DOLPHIN;
0MOUSE FACE;0COW FACE;0TIGER FACE;0RABBIT FACE;0CAT FACE;0DRAGON FACE;0SPOUTING WHALE;0HORSE FACE;
0MONKEY FACE;0DOG FACE;0PIG FACE;0FROG FACE;0HAMSTER FACE;0WOLF FACE;0BEAR FACE;0PANDA FACE;
0PIG NOSE;0PAW PRINTS;0CHIPMUNK;0EYES;0EYE;0EAR;0NOSE;0MOUTH;0TONGUE;
0WHITE UP POINTING BACKHAND INDEX;1DOWN POINTING BACKHAND INDEX;1LEFT POINTING BACKHAND INDEX;
1RIGHT POINTING BACKHAND INDEX;0FISTED HAND SIGN;0WAVING HAND SIGN;0OK HAND SIGN;0THUMBS UP SIGN;
1DOWN SIGN;0CLAPPING HANDS SIGN;0OPEN HANDS SIGN;0CROWN;0WOMANS HAT;0EYEGLASSES;0NECKTIE;0T-SHIRT;
0JEANS;0DRESS;0KIMONO;0BIKINI;0WOMANS CLOTHES;0PURSE;0HANDBAG;0POUCH;0MANS SHOE;0ATHLETIC SHOE;
0HIGH-HEELED SHOE;0WOMANS SANDAL;1BOOTS;0FOOTPRINTS;0BUST IN SILHOUETTE;0BUSTS IN SILHOUETTE;0BOY;
0GIRL;0MAN;0WOMAN;0FAMILY;0MAN AND WOMAN HOLDING HANDS;0TWO MEN HOLDING HANDS;1WOMEN HOLDING HANDS;
0POLICE OFFICER;0WOMAN WITH BUNNY EARS;0BRIDE WITH VEIL;0PERSON WITH BLOND HAIR;
0MAN WITH GUA PI MAO;2TURBAN;0OLDER MAN;1WOMAN;0BABY;0CONSTRUCTION WORKER;0PRINCESS;0JAPANESE OGRE;
1GOBLIN;0GHOST;0BABY ANGEL;0EXTRATERRESTRIAL ALIEN;0ALIEN MONSTER;0IMP;0SKULL;
0INFORMATION DESK PERSON;0GUARDSMAN;0DANCER;0LIPSTICK;0NAIL POLISH;0FACE MASSAGE;0HAIRCUT;
0BARBER POLE;0SYRINGE;0PILL;0KISS MARK;0LOVE LETTER;0RING;0GEM STONE;0KISS;0BOUQUET;
0COUPLE WITH HEART;0WEDDING;0BEATING HEART;0BROKEN HEART;0TWO HEARTS;0SPARKLING HEART;
0GROWING HEART;0HEART WITH ARROW;0BLUE HEART;0GREEN HEART;0YELLOW HEART;0PURPLE HEART;
0HEART WITH RIBBON;0REVOLVING HEARTS;0HEART DECORATION;0DIAMOND SHAPE WITH A DOT INSIDE;
0ELECTRIC LIGHT BULB;0ANGER SYMBOL;0BOMB;0SLEEPING SYMBOL;0COLLISION SYMBOL;0SPLASHING SWEAT SYMBOL;
0DROPLET;0DASH SYMBOL;0PILE OF POO;0FLEXED BICEPS;0DIZZY SYMBOL;0SPEECH BALLOON;0THOUGHT BALLOON;
0WHITE FLOWER;0HUNDRED POINTS SYMBOL;0MONEY BAG;0CURRENCY EXCHANGE;0HEAVY DOLLAR SIGN;0CREDIT CARD;
0BANKNOTE WITH YEN SIGN;2DOLLAR SIGN;2EURO SIGN;2POUND SIGN;0MONEY WITH WINGS;
0CHART WITH UPWARDS TREND AND YEN SIGN;0SEAT;0PERSONAL COMPUTER;0BRIEFCASE;0MINIDISC;0FLOPPY DISK;
0OPTICAL DISC;0DVD;0FILE FOLDER;0OPEN FILE FOLDER;0PAGE WITH CURL;1FACING UP;0CALENDAR;
0TEAR-OFF CALENDAR;0CARD INDEX;0CHART WITH UPWARDS TREND;2DOWNWARDS TREND;0BAR CHART;0CLIPBOARD;
0PUSHPIN;0ROUND PUSHPIN;0PAPERCLIP;0STRAIGHT RULER;0TRIANGULAR RULER;0BOOKMARK TABS;0LEDGER;
0NOTEBOOK;1WITH DECORATIVE COVER;0CLOSED BOOK;0OPEN BOOK;0GREEN BOOK;0BLUE BOOK;0ORANGE BOOK;0BOOKS;
0NAME BADGE;0SCROLL;0MEMO;0TELEPHONE RECEIVER;0PAGER;0FAX MACHINE;0SATELLITE ANTENNA;
0PUBLIC ADDRESS LOUDSPEAKER;0CHEERING MEGAPHONE;0OUTBOX TRAY;0INBOX TRAY;0PACKAGE;0E-MAIL SYMBOL;
0INCOMING ENVELOPE;0ENVELOPE WITH DOWNWARDS ARROW ABOVE;0CLOSED MAILBOX WITH LOWERED FLAG;
3RAISED FLAG;0OPEN MAILBOX WITH RAISED FLAG;3LOWERED FLAG;0POSTBOX;0POSTAL HORN;0NEWSPAPER;
0MOBILE PHONE;2WITH RIGHTWARDS ARROW AT LEFT;0VIBRATION MODE;0MOBILE PHONE OFF;0NO MOBILE PHONES;
0ANTENNA WITH BARS;0CAMERA;1WITH FLASH;0VIDEO CAMERA;0TELEVISION;0RADIO;0VIDEOCASSETTE;
0FILM PROJECTOR;0PORTABLE STEREO;0PRAYER BEADS;0TWISTED RIGHTWARDS ARROWS;
0CLOCKWISE RIGHTWARDS AND LEFTWARDS OPEN CIRCLE ARROWS;7WITH CIRCLED ONE OVERLAY;
1DOWNWARDS AND UPWARDS OPEN CIRCLE ARROWS;0ANTICLOCKWISE DOWNWARDS AND UPWARDS OPEN CIRCLE ARROWS;
0LOW BRIGHTNESS SYMBOL;0HIGH BRIGHTNESS SYMBOL;0SPEAKER WITH CANCELLATION STROKE;0SPEAKER;
1WITH ONE SOUND WAVE;2THREE SOUND WAVES;0BATTERY;0ELECTRIC PLUG;0LEFT-POINTING MAGNIFYING GLASS;
0RIGHT-POINTING MAGNIFYING GLASS;0LOCK WITH INK PEN;0CLOSED LOCK WITH KEY;0KEY;0LOCK;0OPEN LOCK;
0BELL;1WITH CANCELLATION STROKE;0BOOKMARK;0LINK SYMBOL;0RADIO BUTTON;
0BACK WITH LEFTWARDS ARROW ABOVE;0END WITH LEFTWARDS ARROW ABOVE;
0ON WITH EXCLAMATION MARK WITH LEFT RIGHT ARROW ABOVE;0SOON WITH RIGHTWARDS ARROW ABOVE;
0TOP WITH UPWARDS ARROW ABOVE;0NO ONE UNDER EIGHTEEN SYMBOL;0KEYCAP TEN;
0INPUT SYMBOL FOR LATIN CAPITAL LETTERS;4SMALL LETTERS;3NUMBERS;3SYMBOLS;3LATIN LETTERS;0FIRE;
0ELECTRIC TORCH;0WRENCH;0HAMMER;0NUT AND BOLT;0HOCHO;0PISTOL;0MICROSCOPE;0TELESCOPE;0CRYSTAL BALL;
0SIX POINTED STAR WITH MIDDLE DOT;0JAPANESE SYMBOL FOR BEGINNER;0TRIDENT EMBLEM;
0BLACK SQUARE BUTTON;0WHITE SQUARE BUTTON;0LARGE RED CIRCLE;1BLUE CIRCLE;1ORANGE DIAMOND;
1BLUE DIAMOND;0SMALL ORANGE DIAMOND;1BLUE DIAMOND;0UP-POINTING RED TRIANGLE;
0DOWN-POINTING RED TRIANGLE;0UP-POINTING SMALL RED TRIANGLE;0DOWN-POINTING SMALL RED TRIANGLE;
0LOWER RIGHT SHADOWED WHITE CIRCLE;0UPPER RIGHT SHADOWED WHITE CIRCLE;0CIRCLED CROSS POMMEE;
0CROSS POMMEE WITH HALF-CIRCLE BELOW;1POMMEE;0NOTCHED LEFT SEMICIRCLE WITH THREE DOTS;
1RIGHT SEMICIRCLE WITH THREE DOTS;0SYMBOL FOR MARKS CHAPTER;0WHITE LATIN CROSS;0HEAVY LATIN CROSS;
0CELTIC CROSS;0OM SYMBOL;0DOVE OF PEACE;0KAABA;0MOSQUE;0SYNAGOGUE;0MENORAH WITH NINE BRANCHES;
0BOWL OF HYGIEIA;0CLOCK FACE ONE OCLOCK;2TWO OCLOCK;2THREE OCLOCK;2FOUR OCLOCK;2FIVE OCLOCK;
2SIX OCLOCK;2SEVEN OCLOCK;2EIGHT OCLOCK;2NINE OCLOCK;2TEN OCLOCK;2ELEVEN OCLOCK;2TWELVE OCLOCK;
2ONE-THIRTY;2TWO-THIRTY;2THREE-THIRTY;2FOUR-THIRTY;2FIVE-THIRTY;2SIX-THIRTY;2SEVEN-THIRTY;
2EIGHT-THIRTY;2NINE-THIRTY;2TEN-THIRTY;2ELEVEN-THIRTY;2TWELVE-THIRTY;0RIGHT SPEAKER;
2WITH ONE SOUND WAVE;3THREE SOUND WAVES;0BULLHORN;1WITH SOUND WAVES;0RINGING BELL;0BOOK;0CANDLE;
0MANTELPIECE CLOCK;0BLACK SKULL AND CROSSBONES;0NO PIRACY;0HOLE;0MAN IN BUSINESS SUIT LEVITATING;
0SLEUTH OR SPY;0DARK SUNGLASSES;0SPIDER;1WEB;0JOYSTICK;0MAN DANCING;0LEFT HAND TELEPHONE RECEIVER;
0TELEPHONE RECEIVER WITH PAGE;0RIGHT HAND TELEPHONE RECEIVER;0WHITE TOUCHTONE TELEPHONE;
0BLACK TOUCHTONE TELEPHONE;0TELEPHONE ON TOP OF MODEM;0CLAMSHELL MOBILE PHONE;0BACK OF ENVELOPE;
0STAMPED ENVELOPE;0ENVELOPE WITH LIGHTNING;0FLYING ENVELOPE;0PEN OVER STAMPED ENVELOPE;
0LINKED PAPERCLIPS;0BLACK PUSHPIN;0LOWER LEFT PENCIL;2BALLPOINT PEN;2FOUNTAIN PEN;2PAINTBRUSH;
2CRAYON;0LEFT WRITING HAND;0TURNED OK HAND SIGN;0RAISED HAND WITH FINGERS SPLAYED;
0REVERSED RAISED HAND WITH FINGERS SPLAYED;1THUMBS UP SIGN;2DOWN SIGN;1VICTORY HAND;
1HAND WITH MIDDLE FINGER EXTENDED;0RAISED HAND WITH PART BETWEEN MIDDLE AND RING FINGERS;
0WHITE DOWN POINTING LEFT HAND INDEX;0SIDEWAYS WHITE LEFT POINTING INDEX;2RIGHT POINTING INDEX;
1BLACK LEFT POINTING INDEX;2RIGHT POINTING INDEX;0BLACK LEFT POINTING BACKHAND INDEX;
1RIGHT POINTING BACKHAND INDEX;0SIDEWAYS WHITE UP POINTING INDEX;2DOWN POINTING INDEX;
1BLACK UP POINTING INDEX;2DOWN POINTING INDEX;0BLACK UP POINTING BACKHAND INDEX;
1DOWN POINTING BACKHAND INDEX;1HEART;0DESKTOP COMPUTER;0KEYBOARD AND MOUSE;
0THREE NETWORKED COMPUTERS;0PRINTER;0POCKET CALCULATOR;0BLACK HARD SHELL FLOPPY DISK;
0WHITE HARD SHELL FLOPPY DISK;0SOFT SHELL FLOPPY DISK;0TAPE CARTRIDGE;0WIRED KEYBOARD;
0ONE BUTTON MOUSE;0TWO BUTTON MOUSE;0THREE BUTTON MOUSE;0TRACKBALL;0OLD PERSONAL COMPUTER;
0HARD DISK;0SCREEN;0PRINTER ICON;0FAX ICON;0OPTICAL DISC ICON;0DOCUMENT WITH TEXT;3AND PICTURE;
2PICTURE;0FRAME WITH PICTURE;2TILES;2AN X;0BLACK FOLDER;0FOLDER;0OPEN FOLDER;0CARD INDEX DIVIDERS;
1FILE BOX;0FILE CABINET;0EMPTY NOTE;2PAGE;2PAD;0NOTE;1PAGE;1PAD;0EMPTY DOCUMENT;1PAGE;1PAGES;
0DOCUMENT;0PAGE;0PAGES;0WASTEBASKET;0SPIRAL NOTE PAD;1CALENDAR PAD;0DESKTOP WINDOW;0MINIMIZE;
0MAXIMIZE;0OVERLAP;0CLOCKWISE RIGHT AND LEFT SEMICIRCLE ARROWS;0CANCELLATION X;
0INCREASE FONT SIZE SYMBOL;0DECREASE FONT SIZE SYMBOL;0COMPRESSION;0OLD KEY;0ROLLED-UP NEWSPAPER;
0PAGE WITH CIRCLED TEXT;0STOCK CHART;0DAGGER KNIFE;0LIPS;0SPEAKING HEAD IN SILHOUETTE;
0THREE RAYS ABOVE;2BELOW;2LEFT;2RIGHT;0LEFT SPEECH BUBBLE;0RIGHT SPEECH BUBBLE;0TWO SPEECH BUBBLES;
0THREE SPEECH BUBBLES;0LEFT THOUGHT BUBBLE;0RIGHT THOUGHT BUBBLE;0LEFT ANGER BUBBLE;
0RIGHT ANGER BUBBLE;0MOOD BUBBLE;0LIGHTNING MOOD BUBBLE;1MOOD;0BALLOT BOX WITH BALLOT;1SCRIPT X;
1BOX WITH SCRIPT X;1BOLD SCRIPT X;1BOX WITH BOLD SCRIPT X;0LIGHT CHECK MARK;
0BALLOT BOX WITH BOLD CHECK;0WORLD MAP;0MOUNT FUJI;0TOKYO TOWER;0STATUE OF LIBERTY;
0SILHOUETTE OF JAPAN;0MOYAI;0GRINNING FACE;2WITH SMILING EYES;0FACE WITH TEARS OF JOY;
0SMILING FACE WITH OPEN MOUTH;5AND SMILING EYES;6COLD SWEAT;6TIGHTLY-CLOSED EYES;3HALO;3HORNS;
0WINKING FACE;0SMILING FACE WITH SMILING EYES;0FACE SAVOURING DELICIOUS FOOD;0RELIEVED FACE;
0SMILING FACE WITH HEART-SHAPED EYES;3SUNGLASSES;0SMIRKING FACE;0NEUTRAL FACE;0EXPRESSIONLESS FACE;
0UNAMUSED FACE;0FACE WITH COLD SWEAT;0PENSIVE FACE;0CONFUSED FACE;0CONFOUNDED FACE;0KISSING FACE;
0FACE THROWING A KISS;0KISSING FACE WITH SMILING EYES;3CLOSED EYES;0FACE WITH STUCK-OUT TONGUE;
4AND WINKING EYE;5TIGHTLY-CLOSED EYES;0DISAPPOINTED FACE;0WORRIED FACE;0ANGRY FACE;0POUTING FACE;
0CRYING FACE;0PERSEVERING FACE;0FACE WITH LOOK OF TRIUMPH;0DISAPPOINTED BUT RELIEVED FACE;
0FROWNING FACE WITH OPEN MOUTH;0ANGUISHED FACE;0FEARFUL FACE;0WEARY FACE;0SLEEPY FACE;0TIRED FACE;
0GRIMACING FACE;0LOUDLY CRYING FACE;0FACE WITH OPEN MOUTH;0HUSHED FACE;
0FACE WITH OPEN MOUTH AND COLD SWEAT;1SCREAMING IN FEAR;0ASTONISHED FACE;0FLUSHED FACE;
0SLEEPING FACE;0DIZZY FACE;0FACE WITHOUT MOUTH;1WITH MEDICAL MASK;
0GRINNING CAT FACE WITH SMILING EYES;0CAT FACE WITH TEARS OF JOY;0SMILING CAT FACE WITH OPEN MOUTH;
4HEART-SHAPED EYES;0CAT FACE WITH WRY SMILE;0KISSING CAT FACE WITH CLOSED EYES;0POUTING CAT FACE;
0CRYING CAT FACE;0WEARY CAT FACE;0SLIGHTLY FROWNING FACE;1SMILING FACE;0UPSIDE-DOWN FACE;
0FACE WITH ROLLING EYES;2NO GOOD GESTURE;2OK GESTURE;0PERSON BOWING DEEPLY;0SEE-NO-EVIL MONKEY;
0HEAR-NO-EVIL MONKEY;0SPEAK-NO-EVIL MONKEY;0HAPPY PERSON RAISING ONE HAND;
0PERSON RAISING BOTH HANDS IN CELEBRATION;1FROWNING;1WITH POUTING FACE;2FOLDED HANDS;
0NORTH WEST POINTING LEAF;0SOUTH WEST POINTING LEAF;0NORTH EAST POINTING LEAF;
0SOUTH EAST POINTING LEAF;0TURNED NORTH WEST POINTING LEAF;1SOUTH WEST POINTING LEAF;
1NORTH EAST POINTING LEAF;1SOUTH EAST POINTING LEAF;0NORTH WEST POINTING VINE LEAF;
0SOUTH WEST POINTING VINE LEAF;0NORTH EAST POINTING VINE LEAF;0SOUTH EAST POINTING VINE LEAF;
0HEAVY NORTH WEST POINTING VINE LEAF;1SOUTH WEST POINTING VINE LEAF;1NORTH EAST POINTING VINE LEAF;
1SOUTH EAST POINTING VINE LEAF;0NORTH WEST POINTING BUD;0SOUTH WEST POINTING BUD;
0NORTH EAST POINTING BUD;0SOUTH EAST POINTING BUD;0HEAVY NORTH WEST POINTING BUD;
1SOUTH WEST POINTING BUD;1NORTH EAST POINTING BUD;1SOUTH EAST POINTING BUD;
0HOLLOW QUILT SQUARE ORNAMENT;4IN BLACK SQUARE;0SOLID QUILT SQUARE ORNAMENT;4IN BLACK SQUARE;
0LEFTWARDS ROCKET;0UPWARDS ROCKET;0RIGHTWARDS ROCKET;0DOWNWARDS ROCKET;0SCRIPT LIGATURE ET ORNAMENT;
0HEAVY SCRIPT LIGATURE ET ORNAMENT;0LIGATURE OPEN ET ORNAMENT;0HEAVY LIGATURE OPEN ET ORNAMENT;
1AMPERSAND ORNAMENT;0SWASH AMPERSAND ORNAMENT;
0SANS-SERIF HEAVY DOUBLE TURNED COMMA QUOTATION MARK ORNAMENT;3COMMA QUOTATION MARK ORNAMENT;
2LOW DOUBLE COMMA QUOTATION MARK ORNAMENT;0HEAVY INTERROBANG ORNAMENT;
0SANS-SERIF INTERROBANG ORNAMENT;0HEAVY SANS-SERIF INTERROBANG ORNAMENT;0VERY HEAVY SOLIDUS;
2REVERSE SOLIDUS;0CHECKER BOARD;0REVERSE CHECKER BOARD;0ROCKET;0HELICOPTER;0STEAM LOCOMOTIVE;
0RAILWAY CAR;0HIGH-SPEED TRAIN;2WITH BULLET NOSE;0TRAIN;0METRO;0LIGHT RAIL;0STATION;0TRAM;1CAR;0BUS;
0ONCOMING BUS;0TROLLEYBUS;0BUS STOP;0MINIBUS;0AMBULANCE;0FIRE ENGINE;0POLICE CAR;
0ONCOMING POLICE CAR;0TAXI;0ONCOMING TAXI;0AUTOMOBILE;0ONCOMING AUTOMOBILE;0RECREATIONAL VEHICLE;
0DELIVERY TRUCK;0ARTICULATED LORRY;0TRACTOR;0MONORAIL;0MOUNTAIN RAILWAY;0SUSPENSION RAILWAY;
0MOUNTAIN CABLEWAY;0AERIAL TRAMWAY;0SHIP;0ROWBOAT;0SPEEDBOAT;0HORIZONTAL TRAFFIC LIGHT;
0VERTICAL TRAFFIC LIGHT;0CONSTRUCTION SIGN;0POLICE CARS REVOLVING LIGHT;0TRIANGULAR FLAG ON POST;
0DOOR;0NO ENTRY SIGN;0SMOKING SYMBOL;0NO SMOKING SYMBOL;0PUT LITTER IN ITS PLACE SYMBOL;
0DO NOT LITTER SYMBOL;0POTABLE WATER SYMBOL;0NON-POTABLE WATER SYMBOL;0BICYCLE;0NO BICYCLES;
0BICYCLIST;0MOUNTAIN BICYCLIST;0PEDESTRIAN;0NO PEDESTRIANS;0CHILDREN CROSSING;0MENS SYMBOL;
0WOMENS SYMBOL;0RESTROOM;0BABY SYMBOL;0TOILET;0WATER CLOSET;0SHOWER;0BATH;0BATHTUB;
0PASSPORT CONTROL;0CUSTOMS;0BAGGAGE CLAIM;0LEFT LUGGAGE;0TRIANGLE WITH ROUNDED CORNERS;
0PROHIBITED SIGN;0CIRCLED INFORMATION SOURCE;0BOYS SYMBOL;0GIRLS SYMBOL;0COUCH AND LAMP;
0SLEEPING ACCOMMODATION;0SHOPPING BAGS;0BELLHOP BELL;0BED;0PLACE OF WORSHIP;0OCTAGONAL SIGN;
0SHOPPING TROLLEY;0STUPA;0PAGODA;0HINDU TEMPLE;0HUT;0ELEVATOR;=1F6DD;0PLAYGROUND SLIDE;0WHEEL;
0RING BUOY;0HAMMER AND WRENCH;0SHIELD;0OIL DRUM;0MOTORWAY;0RAILWAY TRACK;0MOTOR BOAT;
0UP-POINTING MILITARY AIRPLANE;1AIRPLANE;1SMALL AIRPLANE;0SMALL AIRPLANE;
0NORTHEAST-POINTING AIRPLANE;0AIRPLANE DEPARTURE;1ARRIVING;=1F6F0;0SATELLITE;0ONCOMING FIRE ENGINE;
0DIESEL LOCOMOTIVE;0PASSENGER SHIP;0SCOOTER;0MOTOR SCOOTER;0CANOE;0SLED;0FLYING SAUCER;0SKATEBOARD;
0AUTO RICKSHAW;0PICKUP TRUCK;0ROLLER SKATE;=1F700;0ALCHEMICAL SYMBOL FOR QUINTESSENCE;3AIR;3FIRE;
3EARTH;3WATER;3AQUAFORTIS;3AQUA REGIA;4REGIA-2;4VITAE;4VITAE-2;3VINEGAR;3VINEGAR-2;3VINEGAR-3;
3SULFUR;3PHILOSOPHERS SULFUR;3BLACK SULFUR;3MERCURY SUBLIMATE;4SUBLIMATE-2;4SUBLIMATE-3;3CINNABAR;
3SALT;3NITRE;3VITRIOL;3VITRIOL-2;3ROCK SALT;4SALT-2;3GOLD;3SILVER;3IRON ORE;4ORE-2;3CROCUS OF IRON;
3REGULUS OF IRON;3COPPER ORE;3IRON-COPPER ORE;3SUBLIMATE OF COPPER;3CROCUS OF COPPER;5COPPER-2;
3COPPER ANTIMONIATE;3SALT OF COPPER ANTIMONIATE;3SUBLIMATE OF SALT OF COPPER;3VERDIGRIS;3TIN ORE;
3LEAD ORE;3ANTIMONY ORE;3SUBLIMATE OF ANTIMONY;3SALT OF ANTIMONY;3SUBLIMATE OF SALT OF ANTIMONY;
3VINEGAR OF ANTIMONY;3REGULUS OF ANTIMONY;5ANTIMONY-2;3REGULUS;3REGULUS-2;3REGULUS-3;3REGULUS-4;
3ALKALI;3ALKALI-2;3MARCASITE;3SAL-AMMONIAC;3ARSENIC;3REALGAR;3REALGAR-2;3AURIPIGMENT;3BISMUTH ORE;
3TARTAR;3TARTAR-2;3QUICK LIME;3BORAX;3BORAX-2;3BORAX-3;3ALUM;3OIL;3SPIRIT;3TINCTURE;3GUM;3WAX;
3POWDER;3CALX;3TUTTY;3CAPUT MORTUUM;3SCEPTER OF JOVE;3CADUCEUS;3TRIDENT;3STARRED TRIDENT;3LODESTONE;
3SOAP;3URINE;3HORSE DUNG;3ASHES;3POT ASHES;3BRICK;3POWDERED BRICK;3AMALGAM;3STRATUM SUPER STRATUM;
5STRATUM-2;3SUBLIMATION;3PRECIPITATE;3DISTILL;3DISSOLVE;3DISSOLVE-2;3PURIFY;3PUTREFACTION;3CRUCIBLE;
3CRUCIBLE-2;3CRUCIBLE-3;3CRUCIBLE-4;3CRUCIBLE-5;3ALEMBIC;3BATH OF MARY;5VAPOURS;3RETORT;3HOUR;
3NIGHT;3DAY-NIGHT;3MONTH;3HALF DRAM;4OUNCE;=1F780;0BLACK LEFT-POINTING ISOSCELES RIGHT TRIANGLE;
1UP-POINTING ISOSCELES RIGHT TRIANGLE;1RIGHT-POINTING ISOSCELES RIGHT TRIANGLE;
1DOWN-POINTING ISOSCELES RIGHT TRIANGLE;1SLIGHTLY SMALL CIRCLE;0MEDIUM BOLD WHITE CIRCLE;
0BOLD WHITE CIRCLE;0HEAVY WHITE CIRCLE;0VERY HEAVY WHITE CIRCLE;0EXTREMELY HEAVY WHITE CIRCLE;
0WHITE CIRCLE CONTAINING BLACK SMALL CIRCLE;0ROUND TARGET;0BLACK TINY SQUARE;1SLIGHTLY SMALL SQUARE;
0LIGHT WHITE SQUARE;0MEDIUM WHITE SQUARE;0BOLD WHITE SQUARE;0HEAVY WHITE SQUARE;
0VERY HEAVY WHITE SQUARE;0EXTREMELY HEAVY WHITE SQUARE;
0WHITE SQUARE CONTAINING BLACK VERY SMALL SQUARE;4MEDIUM SQUARE;0SQUARE TARGET;0BLACK TINY DIAMOND;
1VERY SMALL DIAMOND;1MEDIUM SMALL DIAMOND;0WHITE DIAMOND CONTAINING BLACK VERY SMALL DIAMOND;
4MEDIUM DIAMOND;0DIAMOND TARGET;0BLACK TINY LOZENGE;1VERY SMALL LOZENGE;1MEDIUM SMALL LOZENGE;
0WHITE LOZENGE CONTAINING BLACK SMALL LOZENGE;0THIN GREEK CROSS;0LIGHT GREEK CROSS;
0MEDIUM GREEK CROSS;0BOLD GREEK CROSS;0VERY BOLD GREEK CROSS;1HEAVY GREEK CROSS;
0EXTREMELY HEAVY GREEK CROSS;0THIN SALTIRE;0LIGHT SALTIRE;0MEDIUM SALTIRE;0BOLD SALTIRE;
0HEAVY SALTIRE;0VERY HEAVY SALTIRE;0EXTREMELY HEAVY SALTIRE;0LIGHT FIVE SPOKED ASTERISK;
0MEDIUM FIVE SPOKED ASTERISK;0BOLD FIVE SPOKED ASTERISK;0HEAVY FIVE SPOKED ASTERISK;
0VERY HEAVY FIVE SPOKED ASTERISK;0EXTREMELY HEAVY FIVE SPOKED ASTERISK;0LIGHT SIX SPOKED ASTERISK;
0MEDIUM SIX SPOKED ASTERISK;0BOLD SIX SPOKED ASTERISK;0HEAVY SIX SPOKED ASTERISK;
0VERY HEAVY SIX SPOKED ASTERISK;0EXTREMELY HEAVY SIX SPOKED ASTERISK;0LIGHT EIGHT SPOKED ASTERISK;
0MEDIUM EIGHT SPOKED ASTERISK;0BOLD EIGHT SPOKED ASTERISK;0HEAVY EIGHT SPOKED ASTERISK;
0VERY HEAVY EIGHT SPOKED ASTERISK;0LIGHT THREE POINTED BLACK STAR;0MEDIUM THREE POINTED BLACK STAR;
0THREE POINTED BLACK STAR;0MEDIUM THREE POINTED PINWHEEL STAR;0LIGHT FOUR POINTED BLACK STAR;
0MEDIUM FOUR POINTED BLACK STAR;0FOUR POINTED BLACK STAR;0MEDIUM FOUR POINTED PINWHEEL STAR;
0REVERSE LIGHT FOUR POINTED PINWHEEL STAR;0LIGHT FIVE POINTED BLACK STAR;
0HEAVY FIVE POINTED BLACK STAR;0MEDIUM SIX POINTED BLACK STAR;0HEAVY SIX POINTED BLACK STAR;
0SIX POINTED PINWHEEL STAR;0MEDIUM EIGHT POINTED BLACK STAR;0HEAVY EIGHT POINTED BLACK STAR;
0VERY HEAVY EIGHT POINTED BLACK STAR;0HEAVY EIGHT POINTED PINWHEEL STAR;
0LIGHT TWELVE POINTED BLACK STAR;0HEAVY TWELVE POINTED BLACK STAR;3PINWHEEL STAR;0CIRCLED TRIANGLE;
0NEGATIVE CIRCLED TRIANGLE;0CIRCLED SQUARE;0NEGATIVE CIRCLED SQUARE;=1F7E0;0LARGE ORANGE CIRCLE;
1YELLOW CIRCLE;1GREEN CIRCLE;1PURPLE CIRCLE;1BROWN CIRCLE;1RED SQUARE;1BLUE SQUARE;1ORANGE SQUARE;
1YELLOW SQUARE;1GREEN SQUARE;1PURPLE SQUARE;1BROWN SQUARE;=1F7F0;0HEAVY EQUALS SIGN;=1F800;
0LEFTWARDS ARROW WITH SMALL TRIANGLE ARROWHEAD;0UPWARDS ARROW WITH SMALL TRIANGLE ARROWHEAD;
0RIGHTWARDS ARROW WITH SMALL TRIANGLE ARROWHEAD;0DOWNWARDS ARROW WITH SMALL TRIANGLE ARROWHEAD;
0LEFTWARDS ARROW WITH MEDIUM TRIANGLE ARROWHEAD;0UPWARDS ARROW WITH MEDIUM TRIANGLE ARROWHEAD;
0RIGHTWARDS ARROW WITH MEDIUM TRIANGLE ARROWHEAD;0DOWNWARDS ARROW WITH MEDIUM TRIANGLE ARROWHEAD;
0LEFTWARDS ARROW WITH LARGE TRIANGLE ARROWHEAD;0UPWARDS ARROW WITH LARGE TRIANGLE ARROWHEAD;
0RIGHTWARDS ARROW WITH LARGE TRIANGLE ARROWHEAD;0DOWNWARDS ARROW WITH LARGE TRIANGLE ARROWHEAD;
=1F810;0LEFTWARDS ARROW WITH SMALL EQUILATERAL ARROWHEAD;
0UPWARDS ARROW WITH SMALL EQUILATERAL ARROWHEAD;0RIGHTWARDS ARROW WITH SMALL EQUILATERAL ARROWHEAD;
0DOWNWARDS ARROW WITH SMALL EQUILATERAL ARROWHEAD;0LEFTWARDS ARROW WITH EQUILATERAL ARROWHEAD;
0UPWARDS ARROW WITH EQUILATERAL ARROWHEAD;0RIGHTWARDS ARROW WITH EQUILATERAL ARROWHEAD;
0DOWNWARDS ARROW WITH EQUILATERAL ARROWHEAD;0HEAVY LEFTWARDS ARROW WITH EQUILATERAL ARROWHEAD;
1UPWARDS ARROW WITH EQUILATERAL ARROWHEAD;1RIGHTWARDS ARROW WITH EQUILATERAL ARROWHEAD;
1DOWNWARDS ARROW WITH EQUILATERAL ARROWHEAD;1LEFTWARDS ARROW WITH LARGE EQUILATERAL ARROWHEAD;
1UPWARDS ARROW WITH LARGE EQUILATERAL ARROWHEAD;1RIGHTWARDS ARROW WITH LARGE EQUILATERAL ARROWHEAD;
1DOWNWARDS ARROW WITH LARGE EQUILATERAL ARROWHEAD;
0LEFTWARDS TRIANGLE-HEADED ARROW WITH NARROW SHAFT;0UPWARDS TRIANGLE-HEADED ARROW WITH NARROW SHAFT;
0RIGHTWARDS TRIANGLE-HEADED ARROW WITH NARROW SHAFT;
0DOWNWARDS TRIANGLE-HEADED ARROW WITH NARROW SHAFT;
0LEFTWARDS TRIANGLE-HEADED ARROW WITH MEDIUM SHAFT;0UPWARDS TRIANGLE-HEADED ARROW WITH MEDIUM SHAFT;
0RIGHTWARDS TRIANGLE-HEADED ARROW WITH MEDIUM SHAFT;
0DOWNWARDS TRIANGLE-HEADED ARROW WITH MEDIUM SHAFT;0LEFTWARDS TRIANGLE-HEADED ARROW WITH BOLD SHAFT;
0UPWARDS TRIANGLE-HEADED ARROW WITH BOLD SHAFT;0RIGHTWARDS TRIANGLE-HEADED ARROW WITH BOLD SHAFT;
0DOWNWARDS TRIANGLE-HEADED ARROW WITH BOLD SHAFT;0LEFTWARDS TRIANGLE-HEADED ARROW WITH HEAVY SHAFT;
0UPWARDS TRIANGLE-HEADED ARROW WITH HEAVY SHAFT;0RIGHTWARDS TRIANGLE-HEADED ARROW WITH HEAVY SHAFT;
0DOWNWARDS TRIANGLE-HEADED ARROW WITH HEAVY SHAFT;
0LEFTWARDS TRIANGLE-HEADED ARROW WITH VERY HEAVY SHAFT;
0UPWARDS TRIANGLE-HEADED ARROW WITH VERY HEAVY SHAFT;
0RIGHTWARDS TRIANGLE-HEADED ARROW WITH VERY HEAVY SHAFT;
0DOWNWARDS TRIANGLE-HEADED ARROW WITH VERY HEAVY SHAFT;0LEFTWARDS FINGER-POST ARROW;
0UPWARDS FINGER-POST ARROW;0RIGHTWARDS FINGER-POST ARROW;0DOWNWARDS FINGER-POST ARROW;
0LEFTWARDS SQUARED ARROW;0UPWARDS SQUARED ARROW;0RIGHTWARDS SQUARED ARROW;0DOWNWARDS SQUARED ARROW;
0LEFTWARDS COMPRESSED ARROW;0UPWARDS COMPRESSED ARROW;0RIGHTWARDS COMPRESSED ARROW;
0DOWNWARDS COMPRESSED ARROW;0LEFTWARDS HEAVY COMPRESSED ARROW;0UPWARDS HEAVY COMPRESSED ARROW;
0RIGHTWARDS HEAVY COMPRESSED ARROW;0DOWNWARDS HEAVY COMPRESSED ARROW;0LEFTWARDS HEAVY ARROW;
0UPWARDS HEAVY ARROW;0RIGHTWARDS HEAVY ARROW;0DOWNWARDS HEAVY ARROW;=1F850;
0LEFTWARDS SANS-SERIF ARROW;0UPWARDS SANS-SERIF ARROW;0RIGHTWARDS SANS-SERIF ARROW;
0DOWNWARDS SANS-SERIF ARROW;0NORTH WEST SANS-SERIF ARROW;1EAST SANS-SERIF ARROW;
0SOUTH EAST SANS-SERIF ARROW;1WEST SANS-SERIF ARROW;0LEFT RIGHT SANS-SERIF ARROW;
0UP DOWN SANS-SERIF ARROW;=1F860;0WIDE-HEADED LEFTWARDS LIGHT BARB ARROW;1UPWARDS LIGHT BARB ARROW;
1RIGHTWARDS LIGHT BARB ARROW;1DOWNWARDS LIGHT BARB ARROW;1NORTH WEST LIGHT BARB ARROW;
2EAST LIGHT BARB ARROW;1SOUTH EAST LIGHT BARB ARROW;2WEST LIGHT BARB ARROW;1LEFTWARDS BARB ARROW;
1UPWARDS BARB ARROW;1RIGHTWARDS BARB ARROW;1DOWNWARDS BARB ARROW;1NORTH WEST BARB ARROW;
2EAST BARB ARROW;1SOUTH EAST BARB ARROW;2WEST BARB ARROW;1LEFTWARDS MEDIUM BARB ARROW;
1UPWARDS MEDIUM BARB ARROW;1RIGHTWARDS MEDIUM BARB ARROW;1DOWNWARDS MEDIUM BARB ARROW;
1NORTH WEST MEDIUM BARB ARROW;2EAST MEDIUM BARB ARROW;1SOUTH EAST MEDIUM BARB ARROW;
2WEST MEDIUM BARB ARROW;1LEFTWARDS HEAVY BARB ARROW;1UPWARDS HEAVY BARB ARROW;
1RIGHTWARDS HEAVY BARB ARROW;1DOWNWARDS HEAVY BARB ARROW;1NORTH WEST HEAVY BARB ARROW;
2EAST HEAVY BARB ARROW;1SOUTH EAST HEAVY BARB ARROW;2WEST HEAVY BARB ARROW;
1LEFTWARDS VERY HEAVY BARB ARROW;1UPWARDS VERY HEAVY BARB ARROW;1RIGHTWARDS VERY HEAVY BARB ARROW;
1DOWNWARDS VERY HEAVY BARB ARROW;1NORTH WEST VERY HEAVY BARB ARROW;2EAST VERY HEAVY BARB ARROW;
1SOUTH EAST VERY HEAVY BARB ARROW;2WEST VERY HEAVY BARB ARROW;=1F890;0LEFTWARDS TRIANGLE ARROWHEAD;
0UPWARDS TRIANGLE ARROWHEAD;0RIGHTWARDS TRIANGLE ARROWHEAD;0DOWNWARDS TRIANGLE ARROWHEAD;
0LEFTWARDS WHITE ARROW WITHIN TRIANGLE ARROWHEAD;0UPWARDS WHITE ARROW WITHIN TRIANGLE ARROWHEAD;
0RIGHTWARDS WHITE ARROW WITHIN TRIANGLE ARROWHEAD;0DOWNWARDS WHITE ARROW WITHIN TRIANGLE ARROWHEAD;
0LEFTWARDS ARROW WITH NOTCHED TAIL;0UPWARDS ARROW WITH NOTCHED TAIL;
0RIGHTWARDS ARROW WITH NOTCHED TAIL;0DOWNWARDS ARROW WITH NOTCHED TAIL;0HEAVY ARROW SHAFT WIDTH ONE;
4TWO THIRDS;4ONE HALF;5THIRD;0LEFTWARDS BOTTOM-SHADED WHITE ARROW;
0RIGHTWARDS BOTTOM SHADED WHITE ARROW;0LEFTWARDS TOP SHADED WHITE ARROW;
0RIGHTWARDS TOP SHADED WHITE ARROW;0LEFTWARDS LEFT-SHADED WHITE ARROW;
0RIGHTWARDS RIGHT-SHADED WHITE ARROW;0LEFTWARDS RIGHT-SHADED WHITE ARROW;
0RIGHTWARDS LEFT-SHADED WHITE ARROW;0LEFTWARDS BACK-TILTED SHADOWED WHITE ARROW;
0RIGHTWARDS BACK-TILTED SHADOWED WHITE ARROW;0LEFTWARDS FRONT-TILTED SHADOWED WHITE ARROW;
0RIGHTWARDS FRONT-TILTED SHADOWED WHITE ARROW;0WHITE ARROW SHAFT WIDTH ONE;4TWO THIRDS;=1F8B0;
0ARROW POINTING UPWARDS THEN NORTH WEST;2RIGHTWARDS THEN CURVING SOUTH WEST;=1F900;
0CIRCLED CROSS FORMEE WITH FOUR DOTS;4TWO DOTS;2FORMEE;0LEFT HALF CIRCLE WITH FOUR DOTS;4THREE DOTS;
4TWO DOTS;4DOT;2CIRCLE;0DOWNWARD FACING HOOK;2NOTCHED HOOK;2HOOK WITH DOT;2NOTCHED HOOK WITH DOT;
0PINCHED FINGERS;0WHITE HEART;0BROWN HEART;0PINCHING HAND;0ZIPPER-MOUTH FACE;0MONEY-MOUTH FACE;
0FACE WITH THERMOMETER;0NERD FACE;0THINKING FACE;0FACE WITH HEAD-BANDAGE;0ROBOT FACE;0HUGGING FACE;
0SIGN OF THE HORNS;0CALL ME HAND;0RAISED BACK OF HAND;0LEFT-FACING FIST;0RIGHT-FACING FIST;
0HANDSHAKE;0HAND WITH INDEX AND MIDDLE FINGERS CROSSED;0I LOVE YOU HAND SIGN;0FACE WITH COWBOY HAT;
0CLOWN FACE;0NAUSEATED FACE;0ROLLING ON THE FLOOR LAUGHING;0DROOLING FACE;0LYING FACE;0FACE PALM;
0SNEEZING FACE;0FACE WITH ONE EYEBROW RAISED;0GRINNING FACE WITH STAR EYES;
3ONE LARGE AND ONE SMALL EYE;0FACE WITH FINGER COVERING CLOSED LIPS;
0SERIOUS FACE WITH SYMBOLS COVERING MOUTH;0SMILING FACE WITH SMILING EYES AND HAND COVERING MOUTH;
0FACE WITH OPEN MOUTH VOMITING;0SHOCKED FACE WITH EXPLODING HEAD;0PREGNANT WOMAN;0BREAST-FEEDING;
0PALMS UP TOGETHER;0SELFIE;0PRINCE;0MAN IN TUXEDO;0MOTHER CHRISTMAS;0SHRUG;0PERSON DOING CARTWHEEL;
0JUGGLING;0FENCER;0MODERN PENTATHLON;0WRESTLERS;0WATER POLO;0HANDBALL;0DIVING MASK;0WILTED FLOWER;
0DRUM WITH DRUMSTICKS;0CLINKING GLASSES;0TUMBLER GLASS;0SPOON;0GOAL NET;0RIFLE;0FIRST PLACE MEDAL;
0SECOND PLACE MEDAL;0THIRD PLACE MEDAL;0BOXING GLOVE;0MARTIAL ARTS UNIFORM;0CURLING STONE;
0LACROSSE STICK AND BALL;0SOFTBALL;0FLYING DISC;0CROISSANT;0AVOCADO;0CUCUMBER;0BACON;0POTATO;
0CARROT;0BAGUETTE BREAD;0GREEN SALAD;0SHALLOW PAN OF FOOD;0STUFFED FLATBREAD;0EGG;0GLASS OF MILK;
0PEANUTS;0KIWIFRUIT;0PANCAKES;0DUMPLING;0FORTUNE COOKIE;0TAKEOUT BOX;0CHOPSTICKS;0BOWL WITH SPOON;
0CUP WITH STRAW;0COCONUT;0BROCCOLI;0PIE;0PRETZEL;0CUT OF MEAT;0SANDWICH;0CANNED FOOD;0LEAFY GREEN;
0MANGO;0MOON CAKE;0BAGEL;0SMILING FACE WITH SMILING EYES AND THREE HEARTS;0YAWNING FACE;
0SMILING FACE WITH TEAR;0FACE WITH PARTY HORN AND PARTY HAT;2UNEVEN EYES AND WAVY MOUTH;
0OVERHEATED FACE;0FREEZING FACE;0NINJA;0DISGUISED FACE;0FACE HOLDING BACK TEARS;1WITH PLEADING EYES;
0SARI;0LAB COAT;0GOGGLES;0HIKING BOOT;0FLAT SHOE;0CRAB;0LION FACE;0SCORPION;0TURKEY;0UNICORN FACE;
0EAGLE;0DUCK;0BAT;0SHARK;0OWL;0FOX FACE;0BUTTERFLY;0DEER;0GORILLA;0LIZARD;0RHINOCEROS;0SHRIMP;
0SQUID;0GIRAFFE FACE;0ZEBRA FACE;0HEDGEHOG;0SAUROPOD;0T-REX;0CRICKET;0KANGAROO;0LLAMA;0PEACOCK;
0HIPPOPOTAMUS;0PARROT;0RACCOON;0LOBSTER;0MOSQUITO;0MICROBE;0BADGER;0SWAN;0MAMMOTH;0DODO;0SLOTH;
0OTTER;0ORANGUTAN;0SKUNK;0FLAMINGO;0OYSTER;0BEAVER;0BISON;0SEAL;0GUIDE DOG;0PROBING CANE;
0EMOJI COMPONENT RED HAIR;2CURLY HAIR;2BALD;2WHITE HAIR;0BONE;0LEG;0FOOT;0TOOTH;0SUPERHERO;
0SUPERVILLAIN;0SAFETY VEST;0EAR WITH HEARING AID;0MOTORIZED WHEELCHAIR;0MANUAL WHEELCHAIR;
0MECHANICAL ARM;1LEG;0CHEESE WEDGE;0CUPCAKE;0SALT SHAKER;0BEVERAGE BOX;0GARLIC;0ONION;0FALAFEL;
0WAFFLE;0BUTTER;0MATE DRINK;0ICE CUBE;0BUBBLE TEA;0TROLL;0STANDING PERSON;0KNEELING PERSON;
0DEAF PERSON;0FACE WITH MONOCLE;0ADULT;0CHILD;0OLDER ADULT;0BEARDED PERSON;0PERSON WITH HEADSCARF;
1IN STEAMY ROOM;1CLIMBING;1IN LOTUS POSITION;0MAGE;0FAIRY;0VAMPIRE;0MERPERSON;0ELF;0GENIE;0ZOMBIE;
0BRAIN;0ORANGE HEART;0BILLED CAP;0SCARF;0GLOVES;0COAT;0SOCKS;0RED GIFT ENVELOPE;0FIRECRACKER;
0JIGSAW PUZZLE PIECE;0TEST TUBE;0PETRI DISH;0DNA DOUBLE HELIX;0COMPASS;0ABACUS;0FIRE EXTINGUISHER;
0TOOLBOX;0BRICK;0MAGNET;0LUGGAGE;0LOTION BOTTLE;0SPOOL OF THREAD;0BALL OF YARN;0SAFETY PIN;
0TEDDY BEAR;0BROOM;0BASKET;0ROLL OF PAPER;0BAR OF SOAP;0SPONGE;0RECEIPT;0NAZAR AMULET;
0NEUTRAL CHESS KING;2QUEEN;2ROOK;2BISHOP;2KNIGHT;2PAWN;
0WHITE CHESS KNIGHT ROTATED FORTY-FIVE DEGREES;0BLACK CHESS KNIGHT ROTATED FORTY-FIVE DEGREES;
0NEUTRAL CHESS KNIGHT ROTATED FORTY-FIVE DEGREES;0WHITE CHESS KING ROTATED NINETY DEGREES;
2QUEEN ROTATED NINETY DEGREES;2ROOK ROTATED NINETY DEGREES;2BISHOP ROTATED NINETY DEGREES;
2KNIGHT ROTATED NINETY DEGREES;2PAWN ROTATED NINETY DEGREES;
0BLACK CHESS KING ROTATED NINETY DEGREES;2QUEEN ROTATED NINETY DEGREES;2ROOK ROTATED NINETY DEGREES;
2BISHOP ROTATED NINETY DEGREES;2KNIGHT ROTATED NINETY DEGREES;2PAWN ROTATED NINETY DEGREES;
0NEUTRAL CHESS KING ROTATED NINETY DEGREES;2QUEEN ROTATED NINETY DEGREES;
2ROOK ROTATED NINETY DEGREES;2BISHOP ROTATED NINETY DEGREES;2KNIGHT ROTATED NINETY DEGREES;
2PAWN ROTATED NINETY DEGREES;0WHITE CHESS KNIGHT ROTATED ONE HUNDRED THIRTY-FIVE DEGREES;
0BLACK CHESS KNIGHT ROTATED ONE HUNDRED THIRTY-FIVE DEGREES;
0NEUTRAL CHESS KNIGHT ROTATED ONE HUNDRED THIRTY-FIVE DEGREES;0WHITE CHESS TURNED KING;3QUEEN;3ROOK;
3BISHOP;3KNIGHT;3PAWN;0BLACK CHESS TURNED KING;3QUEEN;3ROOK;3BISHOP;3KNIGHT;3PAWN;
0NEUTRAL CHESS TURNED KING;3QUEEN;3ROOK;3BISHOP;3KNIGHT;3PAWN;
0WHITE CHESS KNIGHT ROTATED TWO HUNDRED TWENTY-FIVE DEGREES;
0BLACK CHESS KNIGHT ROTATED TWO HUNDRED TWENTY-FIVE DEGREES;
0NEUTRAL CHESS KNIGHT ROTATED TWO HUNDRED TWENTY-FIVE DEGREES;
0WHITE CHESS KING ROTATED TWO HUNDRED SEVENTY DEGREES;2QUEEN ROTATED TWO HUNDRED SEVENTY DEGREES;
2ROOK ROTATED TWO HUNDRED SEVENTY DEGREES;2BISHOP ROTATED TWO HUNDRED SEVENTY DEGREES;
2KNIGHT ROTATED TWO HUNDRED SEVENTY DEGREES;2PAWN ROTATED TWO HUNDRED SEVENTY DEGREES;
0BLACK CHESS KING ROTATED TWO HUNDRED SEVENTY DEGREES;2QUEEN ROTATED TWO HUNDRED SEVENTY DEGREES;
2ROOK ROTATED TWO HUNDRED SEVENTY DEGREES;2BISHOP ROTATED TWO HUNDRED SEVENTY DEGREES;
2KNIGHT ROTATED TWO HUNDRED SEVENTY DEGREES;2PAWN ROTATED TWO HUNDRED SEVENTY DEGREES;
0NEUTRAL CHESS KING ROTATED TWO HUNDRED SEVENTY DEGREES;2QUEEN ROTATED TWO HUNDRED SEVENTY DEGREES;
2ROOK ROTATED TWO HUNDRED SEVENTY DEGREES;2BISHOP ROTATED TWO HUNDRED SEVENTY DEGREES;
2KNIGHT ROTATED TWO HUNDRED SEVENTY DEGREES;2PAWN ROTATED TWO HUNDRED SEVENTY DEGREES;
0WHITE CHESS KNIGHT ROTATED THREE HUNDRED FIFTEEN DEGREES;
0BLACK CHESS KNIGHT ROTATED THREE HUNDRED FIFTEEN DEGREES;
0NEUTRAL CHESS KNIGHT ROTATED THREE HUNDRED FIFTEEN DEGREES;0WHITE CHESS EQUIHOPPER;
0BLACK CHESS EQUIHOPPER;0NEUTRAL CHESS EQUIHOPPER;0WHITE CHESS EQUIHOPPER ROTATED NINETY DEGREES;
0BLACK CHESS EQUIHOPPER ROTATED NINETY DEGREES;0NEUTRAL CHESS EQUIHOPPER ROTATED NINETY DEGREES;
0WHITE CHESS KNIGHT-QUEEN;2KNIGHT-ROOK;2KNIGHT-BISHOP;0BLACK CHESS KNIGHT-QUEEN;2KNIGHT-ROOK;
2KNIGHT-BISHOP;=1FA60;0XIANGQI RED GENERAL;2MANDARIN;2ELEPHANT;2HORSE;2CHARIOT;2CANNON;2SOLDIER;
1BLACK GENERAL;2MANDARIN;2ELEPHANT;2HORSE;2CHARIOT;2CANNON;2SOLDIER;=1FA70;0BALLET SHOES;
0ONE-PIECE SWIMSUIT;0BRIEFS;0SHORTS;0THONG SANDAL;=1FA78;0DROP OF BLOOD;0ADHESIVE BANDAGE;
0STETHOSCOPE;0X-RAY;0CRUTCH;=1FA80;0YO-YO;0KITE;0PARACHUTE;0BOOMERANG;0MAGIC WAND;0PINATA;
0NESTING DOLLS;=1FA90;0RINGED PLANET;0CHAIR;0RAZOR;0AXE;0DIYA LAMP;0BANJO;0MILITARY HELMET;
0ACCORDION;0LONG DRUM;0COIN;0CARPENTRY SAW;0SCREWDRIVER;0LADDER;0HOOK;0MIRROR;0WINDOW;0PLUNGER;
0SEWING NEEDLE;0KNOT;0BUCKET;0MOUSE TRAP;0TOOTHBRUSH;0HEADSTONE;0PLACARD;0ROCK;0MIRROR BALL;
0IDENTIFICATION CARD;0LOW BATTERY;0HAMSA;=1FAB0;0FLY;0WORM;0BEETLE;0COCKROACH;0POTTED PLANT;0WOOD;
0FEATHER;0LOTUS;0CORAL;0EMPTY NEST;0NEST WITH EGGS;=1FAC0;0ANATOMICAL HEART;0LUNGS;0PEOPLE HUGGING;
0PREGNANT MAN;1PERSON;0PERSON WITH CROWN;=1FAD0;0BLUEBERRIES;0BELL PEPPER;0OLIVE;0FLATBREAD;0TAMALE;
0FONDUE;0TEAPOT;0POURING LIQUID;0BEANS;0JAR;=1FAE0;0MELTING FACE;0SALUTING FACE;
0FACE WITH OPEN EYES AND HAND OVER MOUTH;2PEEKING EYE;2DIAGONAL MOUTH;0DOTTED LINE FACE;0BITING LIP;
0BUBBLES;=1FAF0;0HAND WITH INDEX FINGER AND THUMB CROSSED;0RIGHTWARDS HAND;0LEFTWARDS HAND;
0PALM DOWN HAND;1UP HAND;0INDEX POINTING AT THE VIEWER;0HEART HANDS;=1FB00;0BLOCK SEXTANT-1;
1SEXTANT-2;1SEXTANT-12;1SEXTANT-3;1SEXTANT-13;1SEXTANT-23;1SEXTANT-123;1SEXTANT-4;1SEXTANT-14;
1SEXTANT-24;1SEXTANT-124;1SEXTANT-34;1SEXTANT-134;1SEXTANT-234;1SEXTANT-1234;1SEXTANT-5;1SEXTANT-15;
1SEXTANT-25;1SEXTANT-125;1SEXTANT-35;1SEXTANT-235;1SEXTANT-1235;1SEXTANT-45;1SEXTANT-145;
1SEXTANT-245;1SEXTANT-1245;1SEXTANT-345;1SEXTANT-1345;1SEXTANT-2345;1SEXTANT-12345;1SEXTANT-6;
1SEXTANT-16;1SEXTANT-26;1SEXTANT-126;1SEXTANT-36;1SEXTANT-136;1SEXTANT-236;1SEXTANT-1236;
1SEXTANT-46;1SEXTANT-146;1SEXTANT-1246;1SEXTANT-346;1SEXTANT-1346;1SEXTANT-2346;1SEXTANT-12346;
1SEXTANT-56;1SEXTANT-156;1SEXTANT-256;1SEXTANT-1256;1SEXTANT-356;1SEXTANT-1356;1SEXTANT-2356;
1SEXTANT-12356;1SEXTANT-456;1SEXTANT-1456;1SEXTANT-2456;1SEXTANT-12456;1SEXTANT-3456;1SEXTANT-13456;
1SEXTANT-23456;0LOWER LEFT BLOCK DIAGONAL LOWER MIDDLE LEFT TO LOWER CENTRE;9RIGHT;
4UPPER MIDDLE LEFT TO LOWER CENTRE;9RIGHT;5LEFT TO LOWER CENTRE;
1RIGHT BLOCK DIAGONAL UPPER MIDDLE LEFT TO UPPER CENTRE;9RIGHT;4LOWER MIDDLE LEFT TO UPPER CENTRE;
9RIGHT;5LEFT TO UPPER CENTRE;5MIDDLE LEFT TO UPPER MIDDLE RIGHT;5CENTRE TO LOWER MIDDLE RIGHT;
5LEFT TO LOWER MIDDLE RIGHT;5CENTRE TO UPPER MIDDLE RIGHT;5LEFT TO UPPER MIDDLE RIGHT;
5CENTRE TO UPPER RIGHT;1LEFT BLOCK DIAGONAL UPPER CENTRE TO UPPER MIDDLE RIGHT;
5LEFT TO UPPER MIDDLE RIGHT;5CENTRE TO LOWER MIDDLE RIGHT;5LEFT TO LOWER MIDDLE RIGHT;
5CENTRE TO LOWER RIGHT;5MIDDLE LEFT TO LOWER MIDDLE RIGHT;
0UPPER RIGHT BLOCK DIAGONAL LOWER MIDDLE LEFT TO LOWER CENTRE;9RIGHT;
4UPPER MIDDLE LEFT TO LOWER CENTRE;9RIGHT;5LEFT TO LOWER CENTRE;
1LEFT BLOCK DIAGONAL UPPER MIDDLE LEFT TO UPPER CENTRE;9RIGHT;4LOWER MIDDLE LEFT TO UPPER CENTRE;
9RIGHT;5LEFT TO UPPER CENTRE;5MIDDLE LEFT TO UPPER MIDDLE RIGHT;5CENTRE TO LOWER MIDDLE RIGHT;
5LEFT TO LOWER MIDDLE RIGHT;5CENTRE TO UPPER MIDDLE RIGHT;5LEFT TO UPPER MIDDLE RIGHT;
5CENTRE TO UPPER RIGHT;1RIGHT BLOCK DIAGONAL UPPER CENTRE TO UPPER MIDDLE RIGHT;
5LEFT TO UPPER MIDDLE RIGHT;5CENTRE TO LOWER MIDDLE RIGHT;5LEFT TO LOWER MIDDLE RIGHT;
5CENTRE TO LOWER RIGHT;5MIDDLE LEFT TO LOWER MIDDLE RIGHT;
1AND RIGHT AND LOWER TRIANGULAR THREE QUARTERS BLOCK;
0LEFT AND LOWER AND RIGHT TRIANGULAR THREE QUARTERS BLOCK;
0UPPER AND LEFT AND LOWER TRIANGULAR THREE QUARTERS BLOCK;
0LEFT AND UPPER AND RIGHT TRIANGULAR THREE QUARTERS BLOCK;1TRIANGULAR ONE QUARTER BLOCK;
0UPPER TRIANGULAR ONE QUARTER BLOCK;0RIGHT TRIANGULAR ONE QUARTER BLOCK;
0LOWER TRIANGULAR ONE QUARTER BLOCK;0VERTICAL ONE EIGHTH BLOCK-2;3BLOCK-3;3BLOCK-4;3BLOCK-5;
3BLOCK-6;3BLOCK-7;0HORIZONTAL ONE EIGHTH BLOCK-2;3BLOCK-3;3BLOCK-4;3BLOCK-5;3BLOCK-6;3BLOCK-7;
0LEFT AND LOWER ONE EIGHTH BLOCK;2UPPER ONE EIGHTH BLOCK;0RIGHT AND UPPER ONE EIGHTH BLOCK;
2LOWER ONE EIGHTH BLOCK;0UPPER AND LOWER ONE EIGHTH BLOCK;0HORIZONTAL ONE EIGHTH BLOCK-1358;
0UPPER ONE QUARTER BLOCK;1THREE EIGHTHS BLOCK;1FIVE EIGHTHS BLOCK;1THREE QUARTERS BLOCK;
1SEVEN EIGHTHS BLOCK;0RIGHT ONE QUARTER BLOCK;1THREE EIGHTHS BLOCK;1FIVE EIGHTHS BLOCK;
1THREE QUARTERS BLOCK;1SEVEN EIGHTHS BLOCK;0LEFT HALF MEDIUM SHADE;0RIGHT HALF MEDIUM SHADE;
0UPPER HALF MEDIUM SHADE;0LOWER HALF MEDIUM SHADE;0INVERSE MEDIUM SHADE;
0UPPER HALF BLOCK AND LOWER HALF INVERSE MEDIUM SHADE;2INVERSE MEDIUM SHADE AND LOWER HALF BLOCK;
=1FB94;0LEFT HALF INVERSE MEDIUM SHADE AND RIGHT HALF BLOCK;0CHECKER BOARD FILL;
0INVERSE CHECKER BOARD FILL;0HEAVY HORIZONTAL FILL;0UPPER LEFT TO LOWER RIGHT FILL;
1RIGHT TO LOWER LEFT FILL;1AND LOWER TRIANGULAR HALF BLOCK;0LEFT AND RIGHT TRIANGULAR HALF BLOCK;
0UPPER LEFT TRIANGULAR MEDIUM SHADE;1RIGHT TRIANGULAR MEDIUM SHADE;
0LOWER RIGHT TRIANGULAR MEDIUM SHADE;1LEFT TRIANGULAR MEDIUM SHADE;
0BOX DRAWINGS LIGHT DIAGONAL UPPER CENTRE TO MIDDLE LEFT;8RIGHT;4MIDDLE LEFT TO LOWER CENTRE;
5RIGHT TO LOWER CENTRE;4UPPER CENTRE TO MIDDLE LEFT TO LOWER CENTRE;8RIGHT TO LOWER CENTRE;
4MIDDLE LEFT TO LOWER CENTRE TO MIDDLE RIGHT;7UPPER CENTRE TO MIDDLE RIGHT;
4UPPER CENTRE TO MIDDLE LEFT AND MIDDLE RIGHT TO LOWER CENTRE;
8RIGHT AND MIDDLE LEFT TO LOWER CENTRE;9TO LOWER CENTRE TO MIDDLE LEFT;
8LEFT TO LOWER CENTRE TO MIDDLE RIGHT;4MIDDLE LEFT TO UPPER CENTRE TO MIDDLE RIGHT TO LOWER CENTRE;
5RIGHT TO UPPER CENTRE TO MIDDLE LEFT TO LOWER CENTRE;4DIAMOND;3HORIZONTAL WITH VERTICAL STROKE;
0ARROWHEAD-SHAPED POINTER;0INVERSE CHECK MARK;0LEFT HALF RUNNING MAN;0RIGHT HALF RUNNING MAN;
0INVERSE DOWNWARDS ARROW WITH TIP LEFTWARDS;0LEFTWARDS ARROW AND UPPER AND LOWER ONE EIGHTH BLOCK;
0RIGHTWARDS ARROW AND UPPER AND LOWER ONE EIGHTH BLOCK;0DOWNWARDS ARROW AND RIGHT ONE EIGHTH BLOCK;
0UPWARDS ARROW AND RIGHT ONE EIGHTH BLOCK;0LEFT HALF FOLDER;0RIGHT HALF FOLDER;0VOIDED GREEK CROSS;
0RIGHT OPEN SQUARED DOT;0NEGATIVE DIAGONAL CROSS;2MIDDLE RIGHT TO LOWER CENTRE;2DIAMOND;
0WHITE HEAVY SALTIRE WITH ROUNDED CORNERS;0LEFT THIRD WHITE RIGHT POINTING INDEX;
0MIDDLE THIRD WHITE RIGHT POINTING INDEX;0RIGHT THIRD WHITE RIGHT POINTING INDEX;
0NEGATIVE SQUARED QUESTION MARK;0STICK FIGURE;2WITH ARMS RAISED;2LEANING LEFT;3RIGHT;2WITH DRESS;
0WHITE UP-POINTING CHEVRON;=1FBF0;0SEGMENTED DIGIT ZERO;2ONE;2TWO;2THREE;2FOUR;2FIVE;2SIX;2SEVEN;
2EIGHT;2NINE;"

end ServiceManifest.Text
