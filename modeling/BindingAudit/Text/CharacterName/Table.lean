/-!
# Character name data

The names of characters: those of the Latin, Greek, Cyrillic and Hebrew letters in common use, of
punctuation, signs, symbols, arrows, frames and pictures, and of the controls.
-/

namespace BindingAudit.Text.CharacterName

/-- The names of characters in alphabetical order, several to a line with semicolons between. -/
def nameLines : List String := [
  "ABACUS;AC CURRENT;ACCOUNT OF;ACKNOWLEDGE;ACUTE ACCENT;ADDRESSED TO THE SUBJECT;ADI SHAKTI",
  "ADMISSION TICKETS;ADULT;AERIAL TRAMWAY;AIRPLANE;AIRPLANE ARRIVING;AIRPLANE DEPARTURE",
  "AKTIESELSKAB;ALARM CLOCK;ALEF SYMBOL;ALEMBIC;ALERT;ALIEN MONSTER;ALL AROUND-PROFILE",
  "ALL EQUAL TO;ALMOST EQUAL OR EQUAL TO;ALMOST EQUAL TO;ALTERNATE ONE-WAY LEFT WAY TRAFFIC",
  "ALTERNATIVE KEY SYMBOL;AMBULANCE;AMERICAN FOOTBALL;AMPERSAND;AMPHORA;ANCHOR;ANGER SYMBOL",
  "ANGLE;ANGRY FACE;ANGSTROM SIGN;ANGUISHED FACE;ANKH;ANT;ANTENNA WITH BARS",
  "ANTICLOCKWISE CONTOUR INTEGRAL;ANTICLOCKWISE DOWNWARDS AND UPWARDS OPEN CIRCLE ARROWS",
  "ANTICLOCKWISE OPEN CIRCLE ARROW;ANTICLOCKWISE TOP SEMICIRCLE ARROW",
  "APL FUNCTIONAL SYMBOL ALPHA;APL FUNCTIONAL SYMBOL ALPHA UNDERBAR",
  "APL FUNCTIONAL SYMBOL BACKSLASH BAR;APL FUNCTIONAL SYMBOL CIRCLE BACKSLASH",
  "APL FUNCTIONAL SYMBOL CIRCLE DIAERESIS;APL FUNCTIONAL SYMBOL CIRCLE JOT",
  "APL FUNCTIONAL SYMBOL CIRCLE STAR;APL FUNCTIONAL SYMBOL CIRCLE STILE",
  "APL FUNCTIONAL SYMBOL CIRCLE UNDERBAR;APL FUNCTIONAL SYMBOL COMMA BAR",
  "APL FUNCTIONAL SYMBOL DEL DIAERESIS;APL FUNCTIONAL SYMBOL DEL STILE",
  "APL FUNCTIONAL SYMBOL DEL TILDE;APL FUNCTIONAL SYMBOL DELTA STILE",
  "APL FUNCTIONAL SYMBOL DELTA UNDERBAR;APL FUNCTIONAL SYMBOL DIAMOND UNDERBAR",
  "APL FUNCTIONAL SYMBOL DOWN CARET TILDE;APL FUNCTIONAL SYMBOL DOWN SHOE STILE",
  "APL FUNCTIONAL SYMBOL DOWN TACK JOT;APL FUNCTIONAL SYMBOL DOWN TACK UNDERBAR",
  "APL FUNCTIONAL SYMBOL DOWNWARDS VANE;APL FUNCTIONAL SYMBOL EPSILON UNDERBAR",
  "APL FUNCTIONAL SYMBOL GREATER-THAN DIAERESIS;APL FUNCTIONAL SYMBOL I-BEAM",
  "APL FUNCTIONAL SYMBOL IOTA;APL FUNCTIONAL SYMBOL IOTA UNDERBAR",
  "APL FUNCTIONAL SYMBOL JOT DIAERESIS;APL FUNCTIONAL SYMBOL JOT UNDERBAR",
  "APL FUNCTIONAL SYMBOL LEFT SHOE STILE;APL FUNCTIONAL SYMBOL LEFTWARDS VANE",
  "APL FUNCTIONAL SYMBOL OMEGA;APL FUNCTIONAL SYMBOL OMEGA UNDERBAR;APL FUNCTIONAL SYMBOL QUAD",
  "APL FUNCTIONAL SYMBOL QUAD BACKSLASH;APL FUNCTIONAL SYMBOL QUAD CIRCLE",
  "APL FUNCTIONAL SYMBOL QUAD COLON;APL FUNCTIONAL SYMBOL QUAD DEL",
  "APL FUNCTIONAL SYMBOL QUAD DELTA;APL FUNCTIONAL SYMBOL QUAD DIAMOND",
  "APL FUNCTIONAL SYMBOL QUAD DIVIDE;APL FUNCTIONAL SYMBOL QUAD DOWN CARET",
  "APL FUNCTIONAL SYMBOL QUAD DOWNWARDS ARROW;APL FUNCTIONAL SYMBOL QUAD EQUAL",
  "APL FUNCTIONAL SYMBOL QUAD GREATER-THAN;APL FUNCTIONAL SYMBOL QUAD JOT",
  "APL FUNCTIONAL SYMBOL QUAD LEFTWARDS ARROW;APL FUNCTIONAL SYMBOL QUAD LESS-THAN",
  "APL FUNCTIONAL SYMBOL QUAD NOT EQUAL;APL FUNCTIONAL SYMBOL QUAD QUESTION",
  "APL FUNCTIONAL SYMBOL QUAD RIGHTWARDS ARROW;APL FUNCTIONAL SYMBOL QUAD SLASH",
  "APL FUNCTIONAL SYMBOL QUAD UP CARET;APL FUNCTIONAL SYMBOL QUAD UPWARDS ARROW",
  "APL FUNCTIONAL SYMBOL QUOTE QUAD;APL FUNCTIONAL SYMBOL QUOTE UNDERBAR",
  "APL FUNCTIONAL SYMBOL RHO;APL FUNCTIONAL SYMBOL RIGHTWARDS VANE",
  "APL FUNCTIONAL SYMBOL SEMICOLON UNDERBAR;APL FUNCTIONAL SYMBOL SLASH BAR",
  "APL FUNCTIONAL SYMBOL SQUISH QUAD;APL FUNCTIONAL SYMBOL STAR DIAERESIS",
  "APL FUNCTIONAL SYMBOL STILE TILDE;APL FUNCTIONAL SYMBOL TILDE DIAERESIS",
  "APL FUNCTIONAL SYMBOL UP CARET TILDE;APL FUNCTIONAL SYMBOL UP SHOE JOT",
  "APL FUNCTIONAL SYMBOL UP TACK DIAERESIS;APL FUNCTIONAL SYMBOL UP TACK JOT",
  "APL FUNCTIONAL SYMBOL UP TACK OVERBAR;APL FUNCTIONAL SYMBOL UPWARDS VANE",
  "APL FUNCTIONAL SYMBOL ZILDE;APOSTROPHE;APPROACHES THE LIMIT",
  "APPROXIMATELY BUT NOT ACTUALLY EQUAL TO;APPROXIMATELY EQUAL TO",
  "APPROXIMATELY EQUAL TO OR THE IMAGE OF;AQUARIUS;ARC;ARIES;ARTICULATED LORRY;ARTIST PALETTE",
  "ASCENDING NODE;ASSERTION;ASTERISK;ASTERISK OPERATOR;ASTERISM;ASTONISHED FACE",
  "ASTRONOMICAL SYMBOL FOR URANUS;ASYMPTOTICALLY EQUAL TO;ATHLETIC SHOE;ATOM SYMBOL;AUBERGINE",
  "AUSTRAL SIGN;AUTO RICKSHAW;AUTOMATED TELLER MACHINE;AUTOMOBILE;AVOCADO;BABY;BABY ANGEL",
  "BABY BOTTLE;BABY CHICK;BABY SYMBOL;BACK OF ENVELOPE;BACK WITH LEFTWARDS ARROW ABOVE",
  "BACK-TILTED SHADOWED WHITE RIGHTWARDS ARROW;BACKSPACE;BACON;BACTRIAN CAMEL;BADGER",
  "BADMINTON RACQUET AND SHUTTLECOCK;BAGEL;BAGGAGE CLAIM;BAGUETTE BREAD;BALL OF YARN;BALLOON",
  "BALLOON-SPOKED ASTERISK;BALLOT BOLD SCRIPT X;BALLOT BOX;BALLOT BOX WITH BALLOT",
  "BALLOT BOX WITH BOLD CHECK;BALLOT BOX WITH BOLD SCRIPT X;BALLOT BOX WITH CHECK",
  "BALLOT BOX WITH SCRIPT X;BALLOT BOX WITH X;BALLOT SCRIPT X;BALLOT X;BANANA;BANK",
  "BANKNOTE WITH DOLLAR SIGN;BANKNOTE WITH EURO SIGN;BANKNOTE WITH POUND SIGN",
  "BANKNOTE WITH YEN SIGN;BAR CHART;BAR OF SOAP;BARBER POLE;BASEBALL;BASKET;BASKETBALL AND HOOP",
  "BAT;BATH;BATHTUB;BATTERY;BEACH WITH UMBRELLA;BEAMED ASCENDING MUSICAL NOTES",
  "BEAMED DESCENDING MUSICAL NOTES;BEAMED EIGHTH NOTES;BEAMED SIXTEENTH NOTES;BEAR FACE",
  "BEARDED PERSON;BEATING HEART;BEAVER;BECAUSE;BED;BEER MUG;BEL;BELL;BELL SYMBOL",
  "BELL WITH CANCELLATION STROKE;BELLHOP BELL;BENTO BOX;BENZENE RING;BENZENE RING WITH CIRCLE",
  "BET SYMBOL;BETWEEN;BEVERAGE BOX;BICYCLE;BICYCLIST;BIKINI;BILLED CAP;BILLIARDS;BIOHAZARD SIGN",
  "BIRD;BIRTHDAY CAKE;BISON;BITCOIN SIGN;BLACK CENTRE WHITE STAR;BLACK CHESS BISHOP",
  "BLACK CHESS KING;BLACK CHESS KNIGHT;BLACK CHESS PAWN;BLACK CHESS QUEEN;BLACK CHESS ROOK",
  "BLACK CIRCLE;BLACK CIRCLE FOR RECORD;BLACK CIRCLE WITH TWO WHITE DOTS",
  "BLACK CIRCLE WITH WHITE DOT RIGHT;BLACK CLUB SUIT;BLACK CROSS ON SHIELD;BLACK DIAMOND",
  "BLACK DIAMOND MINUS WHITE X;BLACK DIAMOND SUIT;BLACK DOWN POINTING BACKHAND INDEX",
  "BLACK DOWN-POINTING DOUBLE TRIANGLE;BLACK DOWN-POINTING SMALL TRIANGLE",
  "BLACK DOWN-POINTING TRIANGLE;BLACK DRAUGHTS KING;BLACK DRAUGHTS MAN;BLACK DROPLET;BLACK FLAG",
  "BLACK FLORETTE;BLACK FOLDER;BLACK FOUR POINTED STAR;BLACK HARD SHELL FLOPPY DISK;BLACK HEART",
  "BLACK HEART SUIT;BLACK HEXAGON;BLACK HORIZONTAL ELLIPSE;BLACK LARGE CIRCLE",
  "BLACK LARGE SQUARE;BLACK LEFT LANE MERGE;BLACK LEFT POINTING BACKHAND INDEX",
  "BLACK LEFT POINTING INDEX;BLACK LEFT-POINTING DOUBLE TRIANGLE",
  "BLACK LEFT-POINTING DOUBLE TRIANGLE WITH VERTICAL BAR;BLACK LEFT-POINTING POINTER",
  "BLACK LEFT-POINTING SMALL TRIANGLE;BLACK LEFT-POINTING TRIANGLE;BLACK LEFTWARDS BULLET",
  "BLACK LOWER LEFT TRIANGLE;BLACK LOWER RIGHT TRIANGLE;BLACK MEDIUM DIAMOND",
  "BLACK MEDIUM DOWN-POINTING TRIANGLE;BLACK MEDIUM LEFT-POINTING TRIANGLE;BLACK MEDIUM LOZENGE",
  "BLACK MEDIUM RIGHT-POINTING TRIANGLE;BLACK MEDIUM SMALL SQUARE;BLACK MEDIUM SQUARE",
  "BLACK MEDIUM UP-POINTING TRIANGLE;BLACK MOON LILITH;BLACK NIB;BLACK PARALLELOGRAM",
  "BLACK PENNANT;BLACK PENTAGON;BLACK PUSHPIN;BLACK QUESTION MARK ORNAMENT;BLACK RECTANGLE",
  "BLACK RIGHT POINTING BACKHAND INDEX;BLACK RIGHT POINTING INDEX",
  "BLACK RIGHT-POINTING DOUBLE TRIANGLE;BLACK RIGHT-POINTING DOUBLE TRIANGLE WITH VERTICAL BAR",
  "BLACK RIGHT-POINTING PENTAGON;BLACK RIGHT-POINTING POINTER",
  "BLACK RIGHT-POINTING SMALL TRIANGLE;BLACK RIGHT-POINTING TRIANGLE",
  "BLACK RIGHT-POINTING TRIANGLE WITH DOUBLE VERTICAL BAR;BLACK RIGHTWARDS ARROW",
  "BLACK RIGHTWARDS ARROWHEAD;BLACK RIGHTWARDS BULLET;BLACK ROSETTE;BLACK SAFETY SCISSORS",
  "BLACK SCISSORS;BLACK SHOGI PIECE;BLACK SKULL AND CROSSBONES;BLACK SMALL DIAMOND",
  "BLACK SMALL LOZENGE;BLACK SMALL SQUARE;BLACK SMALL STAR;BLACK SMILING FACE;BLACK SNOWMAN",
  "BLACK SPADE SUIT;BLACK SQUARE;BLACK SQUARE BUTTON;BLACK SQUARE FOR STOP;BLACK STAR",
  "BLACK SUN WITH RAYS;BLACK TELEPHONE;BLACK TOUCHTONE TELEPHONE;BLACK TRUCK",
  "BLACK TWO-WAY LEFT WAY TRAFFIC;BLACK UNIVERSAL RECYCLING SYMBOL",
  "BLACK UP POINTING BACKHAND INDEX;BLACK UP-POINTING DOUBLE TRIANGLE",
  "BLACK UP-POINTING SMALL TRIANGLE;BLACK UP-POINTING TRIANGLE;BLACK UPPER LEFT TRIANGLE",
  "BLACK UPPER RIGHT TRIANGLE;BLACK VERTICAL ELLIPSE;BLACK VERTICAL RECTANGLE",
  "BLACK VERY SMALL SQUARE;BLACK-FEATHERED NORTH EAST ARROW;BLACK-FEATHERED RIGHTWARDS ARROW",
  "BLACK-FEATHERED SOUTH EAST ARROW;BLACK-LETTER CAPITAL C;BLACK-LETTER CAPITAL H",
  "BLACK-LETTER CAPITAL I;BLACK-LETTER CAPITAL R;BLACK-LETTER CAPITAL Z;BLOSSOM;BLOWFISH",
  "BLUE BOOK;BLUE HEART;BOAR;BOM;BOMB;BONE;BOOK;BOOKMARK;BOOKMARK TABS;BOOKS",
  "BOTTLE WITH POPPING CORK;BOTTOM CURLY BRACKET;BOTTOM HALF INTEGRAL;BOTTOM LEFT CORNER",
  "BOTTOM LEFT CROP;BOTTOM PARENTHESIS;BOTTOM RIGHT CORNER;BOTTOM RIGHT CROP",
  "BOTTOM SQUARE BRACKET;BOTTOM SQUARE BRACKET OVER TOP SQUARE BRACKET",
  "BOTTOM TORTOISE SHELL BRACKET;BOUQUET;BOUQUET OF FLOWERS;BOW AND ARROW;BOWL OF HYGIEIA",
  "BOWL WITH SPOON;BOWLING;BOWTIE;BOX DRAWINGS DOUBLE DOWN AND HORIZONTAL",
  "BOX DRAWINGS DOUBLE DOWN AND LEFT;BOX DRAWINGS DOUBLE DOWN AND RIGHT",
  "BOX DRAWINGS DOUBLE HORIZONTAL;BOX DRAWINGS DOUBLE UP AND HORIZONTAL",
  "BOX DRAWINGS DOUBLE UP AND LEFT;BOX DRAWINGS DOUBLE UP AND RIGHT",
  "BOX DRAWINGS DOUBLE VERTICAL;BOX DRAWINGS DOUBLE VERTICAL AND HORIZONTAL",
  "BOX DRAWINGS DOUBLE VERTICAL AND LEFT;BOX DRAWINGS DOUBLE VERTICAL AND RIGHT",
  "BOX DRAWINGS DOWN DOUBLE AND HORIZONTAL SINGLE;BOX DRAWINGS DOWN DOUBLE AND LEFT SINGLE",
  "BOX DRAWINGS DOWN DOUBLE AND RIGHT SINGLE;BOX DRAWINGS DOWN HEAVY AND HORIZONTAL LIGHT",
  "BOX DRAWINGS DOWN HEAVY AND LEFT LIGHT;BOX DRAWINGS DOWN HEAVY AND LEFT UP LIGHT",
  "BOX DRAWINGS DOWN HEAVY AND RIGHT LIGHT;BOX DRAWINGS DOWN HEAVY AND RIGHT UP LIGHT",
  "BOX DRAWINGS DOWN HEAVY AND UP HORIZONTAL LIGHT;BOX DRAWINGS DOWN LIGHT AND HORIZONTAL HEAVY",
  "BOX DRAWINGS DOWN LIGHT AND LEFT HEAVY;BOX DRAWINGS DOWN LIGHT AND LEFT UP HEAVY",
  "BOX DRAWINGS DOWN LIGHT AND RIGHT HEAVY;BOX DRAWINGS DOWN LIGHT AND RIGHT UP HEAVY",
  "BOX DRAWINGS DOWN LIGHT AND UP HORIZONTAL HEAVY",
  "BOX DRAWINGS DOWN SINGLE AND HORIZONTAL DOUBLE;BOX DRAWINGS DOWN SINGLE AND LEFT DOUBLE",
  "BOX DRAWINGS DOWN SINGLE AND RIGHT DOUBLE;BOX DRAWINGS HEAVY DOUBLE DASH HORIZONTAL",
  "BOX DRAWINGS HEAVY DOUBLE DASH VERTICAL;BOX DRAWINGS HEAVY DOWN",
  "BOX DRAWINGS HEAVY DOWN AND HORIZONTAL;BOX DRAWINGS HEAVY DOWN AND LEFT",
  "BOX DRAWINGS HEAVY DOWN AND RIGHT;BOX DRAWINGS HEAVY HORIZONTAL;BOX DRAWINGS HEAVY LEFT",
  "BOX DRAWINGS HEAVY LEFT AND LIGHT RIGHT;BOX DRAWINGS HEAVY QUADRUPLE DASH HORIZONTAL",
  "BOX DRAWINGS HEAVY QUADRUPLE DASH VERTICAL;BOX DRAWINGS HEAVY RIGHT",
  "BOX DRAWINGS HEAVY TRIPLE DASH HORIZONTAL;BOX DRAWINGS HEAVY TRIPLE DASH VERTICAL",
  "BOX DRAWINGS HEAVY UP;BOX DRAWINGS HEAVY UP AND HORIZONTAL;BOX DRAWINGS HEAVY UP AND LEFT",
  "BOX DRAWINGS HEAVY UP AND LIGHT DOWN;BOX DRAWINGS HEAVY UP AND RIGHT",
  "BOX DRAWINGS HEAVY VERTICAL;BOX DRAWINGS HEAVY VERTICAL AND HORIZONTAL",
  "BOX DRAWINGS HEAVY VERTICAL AND LEFT;BOX DRAWINGS HEAVY VERTICAL AND RIGHT",
  "BOX DRAWINGS LEFT DOWN HEAVY AND RIGHT UP LIGHT;BOX DRAWINGS LEFT HEAVY AND RIGHT DOWN LIGHT",
  "BOX DRAWINGS LEFT HEAVY AND RIGHT UP LIGHT;BOX DRAWINGS LEFT HEAVY AND RIGHT VERTICAL LIGHT",
  "BOX DRAWINGS LEFT LIGHT AND RIGHT DOWN HEAVY;BOX DRAWINGS LEFT LIGHT AND RIGHT UP HEAVY",
  "BOX DRAWINGS LEFT LIGHT AND RIGHT VERTICAL HEAVY",
  "BOX DRAWINGS LEFT UP HEAVY AND RIGHT DOWN LIGHT;BOX DRAWINGS LIGHT ARC DOWN AND LEFT",
  "BOX DRAWINGS LIGHT ARC DOWN AND RIGHT;BOX DRAWINGS LIGHT ARC UP AND LEFT",
  "BOX DRAWINGS LIGHT ARC UP AND RIGHT;BOX DRAWINGS LIGHT DIAGONAL CROSS",
  "BOX DRAWINGS LIGHT DIAGONAL UPPER LEFT TO LOWER RIGHT",
  "BOX DRAWINGS LIGHT DIAGONAL UPPER RIGHT TO LOWER LEFT",
  "BOX DRAWINGS LIGHT DOUBLE DASH HORIZONTAL;BOX DRAWINGS LIGHT DOUBLE DASH VERTICAL",
  "BOX DRAWINGS LIGHT DOWN;BOX DRAWINGS LIGHT DOWN AND HORIZONTAL",
  "BOX DRAWINGS LIGHT DOWN AND LEFT;BOX DRAWINGS LIGHT DOWN AND RIGHT",
  "BOX DRAWINGS LIGHT HORIZONTAL;BOX DRAWINGS LIGHT LEFT",
  "BOX DRAWINGS LIGHT LEFT AND HEAVY RIGHT;BOX DRAWINGS LIGHT QUADRUPLE DASH HORIZONTAL",
  "BOX DRAWINGS LIGHT QUADRUPLE DASH VERTICAL;BOX DRAWINGS LIGHT RIGHT",
  "BOX DRAWINGS LIGHT TRIPLE DASH HORIZONTAL;BOX DRAWINGS LIGHT TRIPLE DASH VERTICAL",
  "BOX DRAWINGS LIGHT UP;BOX DRAWINGS LIGHT UP AND HEAVY DOWN",
  "BOX DRAWINGS LIGHT UP AND HORIZONTAL;BOX DRAWINGS LIGHT UP AND LEFT",
  "BOX DRAWINGS LIGHT UP AND RIGHT;BOX DRAWINGS LIGHT VERTICAL",
  "BOX DRAWINGS LIGHT VERTICAL AND HORIZONTAL;BOX DRAWINGS LIGHT VERTICAL AND LEFT",
  "BOX DRAWINGS LIGHT VERTICAL AND RIGHT;BOX DRAWINGS RIGHT DOWN HEAVY AND LEFT UP LIGHT",
  "BOX DRAWINGS RIGHT HEAVY AND LEFT DOWN LIGHT;BOX DRAWINGS RIGHT HEAVY AND LEFT UP LIGHT",
  "BOX DRAWINGS RIGHT HEAVY AND LEFT VERTICAL LIGHT",
  "BOX DRAWINGS RIGHT LIGHT AND LEFT DOWN HEAVY;BOX DRAWINGS RIGHT LIGHT AND LEFT UP HEAVY",
  "BOX DRAWINGS RIGHT LIGHT AND LEFT VERTICAL HEAVY",
  "BOX DRAWINGS RIGHT UP HEAVY AND LEFT DOWN LIGHT;BOX DRAWINGS UP DOUBLE AND HORIZONTAL SINGLE",
  "BOX DRAWINGS UP DOUBLE AND LEFT SINGLE;BOX DRAWINGS UP DOUBLE AND RIGHT SINGLE",
  "BOX DRAWINGS UP HEAVY AND DOWN HORIZONTAL LIGHT;BOX DRAWINGS UP HEAVY AND HORIZONTAL LIGHT",
  "BOX DRAWINGS UP HEAVY AND LEFT DOWN LIGHT;BOX DRAWINGS UP HEAVY AND LEFT LIGHT",
  "BOX DRAWINGS UP HEAVY AND RIGHT DOWN LIGHT;BOX DRAWINGS UP HEAVY AND RIGHT LIGHT",
  "BOX DRAWINGS UP LIGHT AND DOWN HORIZONTAL HEAVY;BOX DRAWINGS UP LIGHT AND HORIZONTAL HEAVY",
  "BOX DRAWINGS UP LIGHT AND LEFT DOWN HEAVY;BOX DRAWINGS UP LIGHT AND LEFT HEAVY",
  "BOX DRAWINGS UP LIGHT AND RIGHT DOWN HEAVY;BOX DRAWINGS UP LIGHT AND RIGHT HEAVY",
  "BOX DRAWINGS UP SINGLE AND HORIZONTAL DOUBLE;BOX DRAWINGS UP SINGLE AND LEFT DOUBLE",
  "BOX DRAWINGS UP SINGLE AND RIGHT DOUBLE;BOX DRAWINGS VERTICAL DOUBLE AND HORIZONTAL SINGLE",
  "BOX DRAWINGS VERTICAL DOUBLE AND LEFT SINGLE;BOX DRAWINGS VERTICAL DOUBLE AND RIGHT SINGLE",
  "BOX DRAWINGS VERTICAL HEAVY AND HORIZONTAL LIGHT;BOX DRAWINGS VERTICAL HEAVY AND LEFT LIGHT",
  "BOX DRAWINGS VERTICAL HEAVY AND RIGHT LIGHT;BOX DRAWINGS VERTICAL LIGHT AND HORIZONTAL HEAVY",
  "BOX DRAWINGS VERTICAL LIGHT AND LEFT HEAVY;BOX DRAWINGS VERTICAL LIGHT AND RIGHT HEAVY",
  "BOX DRAWINGS VERTICAL SINGLE AND HORIZONTAL DOUBLE",
  "BOX DRAWINGS VERTICAL SINGLE AND LEFT DOUBLE;BOX DRAWINGS VERTICAL SINGLE AND RIGHT DOUBLE",
  "BOXING GLOVE;BOY;BOYS SYMBOL;BRAIN;BREAD;BREAST-FEEDING;BREVE;BRICK;BRIDE WITH VEIL",
  "BRIDGE AT NIGHT;BRIEFCASE;BROCCOLI;BROKEN BAR;BROKEN CIRCLE WITH NORTHWEST ARROW",
  "BROKEN HEART;BROOM;BROWN HEART;BS;BUBBLE TEA;BUG;BUILDING CONSTRUCTION;BULLET",
  "BULLET OPERATOR;BULLHORN;BULLHORN WITH SOUND WAVES;BULLSEYE;BURRITO;BUS;BUS STOP",
  "BUST IN SILHOUETTE;BUSTS IN SILHOUETTE;BUTTER;BUTTERFLY;CACTUS;CADA UNA;CADUCEUS;CALENDAR",
  "CALL ME HAND;CAMERA;CAMERA WITH FLASH;CAMPING;CANCELLATION X;CANCER;CANDLE;CANDY;CANNED FOOD",
  "CANOE;CAPRICORN;CAR SLIDING;CARD FILE BOX;CARD INDEX;CARD INDEX DIVIDERS;CARE OF;CARET",
  "CARET INSERTION POINT;CARON;CAROUSEL HORSE;CARP STREAMER;CARRIAGE RETURN;CARROT;CASTLE;CAT",
  "CAT FACE;CAT FACE WITH TEARS OF JOY;CAT FACE WITH WRY SMILE;CAUTION SIGN;CEDI SIGN;CEDILLA",
  "CELTIC CROSS;CENT SIGN;CENTRE LINE SYMBOL;CERES;CHAINS;CHARACTER TABULATION;CHARACTER TIE",
  "CHART WITH DOWNWARDS TREND;CHART WITH UPWARDS TREND;CHART WITH UPWARDS TREND AND YEN SIGN",
  "CHECK MARK;CHEERING MEGAPHONE;CHEESE WEDGE;CHEQUERED FLAG;CHERRIES;CHERRY BLOSSOM;CHESTNUT",
  "CHI RHO;CHICKEN;CHILD;CHILDREN CROSSING;CHIPMUNK;CHIRON;CHOCOLATE BAR;CHOPSTICKS",
  "CHRISTMAS TREE;CHURCH;CINEMA;CIRCLE WITH ALL BUT UPPER LEFT QUADRANT BLACK",
  "CIRCLE WITH LEFT HALF BLACK;CIRCLE WITH LOWER HALF BLACK;CIRCLE WITH RIGHT HALF BLACK",
  "CIRCLE WITH UPPER HALF BLACK;CIRCLE WITH UPPER RIGHT QUADRANT BLACK",
  "CIRCLE WITH VERTICAL FILL;CIRCLED ASTERISK OPERATOR;CIRCLED CROSS FORMEE",
  "CIRCLED CROSS FORMEE WITH FOUR DOTS;CIRCLED CROSS FORMEE WITH TWO DOTS;CIRCLED CROSS POMMEE",
  "CIRCLED CROSSING LANES;CIRCLED DASH;CIRCLED DIGIT EIGHT;CIRCLED DIGIT FIVE",
  "CIRCLED DIGIT FOUR;CIRCLED DIGIT NINE;CIRCLED DIGIT ONE;CIRCLED DIGIT SEVEN",
  "CIRCLED DIGIT SIX;CIRCLED DIGIT THREE;CIRCLED DIGIT TWO;CIRCLED DIGIT ZERO",
  "CIRCLED DIVISION SLASH;CIRCLED DOT OPERATOR;CIRCLED EQUALS",
  "CIRCLED HEAVY WHITE RIGHTWARDS ARROW;CIRCLED HORIZONTAL BAR WITH NOTCH",
  "CIRCLED INFORMATION SOURCE;CIRCLED LATIN CAPITAL LETTER A;CIRCLED LATIN CAPITAL LETTER B",
  "CIRCLED LATIN CAPITAL LETTER C;CIRCLED LATIN CAPITAL LETTER D;CIRCLED LATIN CAPITAL LETTER E",
  "CIRCLED LATIN CAPITAL LETTER F;CIRCLED LATIN CAPITAL LETTER G;CIRCLED LATIN CAPITAL LETTER H",
  "CIRCLED LATIN CAPITAL LETTER I;CIRCLED LATIN CAPITAL LETTER J;CIRCLED LATIN CAPITAL LETTER K",
  "CIRCLED LATIN CAPITAL LETTER L;CIRCLED LATIN CAPITAL LETTER M;CIRCLED LATIN CAPITAL LETTER N",
  "CIRCLED LATIN CAPITAL LETTER O;CIRCLED LATIN CAPITAL LETTER P;CIRCLED LATIN CAPITAL LETTER Q",
  "CIRCLED LATIN CAPITAL LETTER R;CIRCLED LATIN CAPITAL LETTER S;CIRCLED LATIN CAPITAL LETTER T",
  "CIRCLED LATIN CAPITAL LETTER U;CIRCLED LATIN CAPITAL LETTER V;CIRCLED LATIN CAPITAL LETTER W",
  "CIRCLED LATIN CAPITAL LETTER X;CIRCLED LATIN CAPITAL LETTER Y;CIRCLED LATIN CAPITAL LETTER Z",
  "CIRCLED LATIN SMALL LETTER A;CIRCLED LATIN SMALL LETTER B;CIRCLED LATIN SMALL LETTER C",
  "CIRCLED LATIN SMALL LETTER D;CIRCLED LATIN SMALL LETTER E;CIRCLED LATIN SMALL LETTER F",
  "CIRCLED LATIN SMALL LETTER G;CIRCLED LATIN SMALL LETTER H;CIRCLED LATIN SMALL LETTER I",
  "CIRCLED LATIN SMALL LETTER J;CIRCLED LATIN SMALL LETTER K;CIRCLED LATIN SMALL LETTER L",
  "CIRCLED LATIN SMALL LETTER M;CIRCLED LATIN SMALL LETTER N;CIRCLED LATIN SMALL LETTER O",
  "CIRCLED LATIN SMALL LETTER P;CIRCLED LATIN SMALL LETTER Q;CIRCLED LATIN SMALL LETTER R",
  "CIRCLED LATIN SMALL LETTER S;CIRCLED LATIN SMALL LETTER T;CIRCLED LATIN SMALL LETTER U",
  "CIRCLED LATIN SMALL LETTER V;CIRCLED LATIN SMALL LETTER W;CIRCLED LATIN SMALL LETTER X",
  "CIRCLED LATIN SMALL LETTER Y;CIRCLED LATIN SMALL LETTER Z;CIRCLED MINUS",
  "CIRCLED NUMBER EIGHTEEN;CIRCLED NUMBER ELEVEN;CIRCLED NUMBER FIFTEEN;CIRCLED NUMBER FOURTEEN",
  "CIRCLED NUMBER NINETEEN;CIRCLED NUMBER SEVENTEEN;CIRCLED NUMBER SIXTEEN;CIRCLED NUMBER TEN",
  "CIRCLED NUMBER THIRTEEN;CIRCLED NUMBER TWELVE;CIRCLED NUMBER TWENTY",
  "CIRCLED OPEN CENTRE EIGHT POINTED STAR;CIRCLED PLUS;CIRCLED RING OPERATOR;CIRCLED TIMES",
  "CIRCLED TRIANGLE DOWN;CIRCLED WHITE STAR;CIRCUMFLEX ACCENT;CIRCUS TENT;CITYSCAPE",
  "CITYSCAPE AT DUSK;CLAMSHELL MOBILE PHONE;CLAPPER BOARD;CLAPPING HANDS SIGN",
  "CLASSICAL BUILDING;CLEAR SCREEN SYMBOL;CLINKING BEER MUGS;CLINKING GLASSES;CLIPBOARD",
  "CLOCK FACE EIGHT OCLOCK;CLOCK FACE EIGHT-THIRTY;CLOCK FACE ELEVEN OCLOCK",
  "CLOCK FACE ELEVEN-THIRTY;CLOCK FACE FIVE OCLOCK;CLOCK FACE FIVE-THIRTY",
  "CLOCK FACE FOUR OCLOCK;CLOCK FACE FOUR-THIRTY;CLOCK FACE NINE OCLOCK;CLOCK FACE NINE-THIRTY",
  "CLOCK FACE ONE OCLOCK;CLOCK FACE ONE-THIRTY;CLOCK FACE SEVEN OCLOCK;CLOCK FACE SEVEN-THIRTY",
  "CLOCK FACE SIX OCLOCK;CLOCK FACE SIX-THIRTY;CLOCK FACE TEN OCLOCK;CLOCK FACE TEN-THIRTY",
  "CLOCK FACE THREE OCLOCK;CLOCK FACE THREE-THIRTY;CLOCK FACE TWELVE OCLOCK",
  "CLOCK FACE TWELVE-THIRTY;CLOCK FACE TWO OCLOCK;CLOCK FACE TWO-THIRTY",
  "CLOCKWISE CONTOUR INTEGRAL;CLOCKWISE DOWNWARDS AND UPWARDS OPEN CIRCLE ARROWS",
  "CLOCKWISE INTEGRAL;CLOCKWISE OPEN CIRCLE ARROW;CLOCKWISE RIGHT AND LEFT SEMICIRCLE ARROWS",
  "CLOCKWISE RIGHTWARDS AND LEFTWARDS OPEN CIRCLE ARROWS",
  "CLOCKWISE RIGHTWARDS AND LEFTWARDS OPEN CIRCLE ARROWS WITH CIRCLED ONE OVERLAY",
  "CLOCKWISE TOP SEMICIRCLE ARROW;CLOSE UP;CLOSED BOOK;CLOSED LOCK WITH KEY",
  "CLOSED MAILBOX WITH LOWERED FLAG;CLOSED MAILBOX WITH RAISED FLAG;CLOSED UMBRELLA;CLOUD",
  "CLOUD WITH LIGHTNING;CLOUD WITH RAIN;CLOUD WITH SNOW;CLOUD WITH TORNADO;CLOWN FACE;COAT",
  "COCKTAIL GLASS;COCONUT;COFFIN;COLLISION SYMBOL;COLON;COLON EQUALS;COLON SIGN",
  "COMBINING ACUTE ACCENT;COMBINING ACUTE ACCENT BELOW;COMBINING ACUTE TONE MARK",
  "COMBINING BREVE;COMBINING BREVE BELOW;COMBINING BRIDGE BELOW;COMBINING CANDRABINDU",
  "COMBINING CARON;COMBINING CARON BELOW;COMBINING CEDILLA;COMBINING CIRCUMFLEX ACCENT",
  "COMBINING CIRCUMFLEX ACCENT BELOW;COMBINING COMMA ABOVE;COMBINING COMMA ABOVE RIGHT",
  "COMBINING COMMA BELOW;COMBINING DIAERESIS;COMBINING DIAERESIS BELOW;COMBINING DOT ABOVE",
  "COMBINING DOT BELOW;COMBINING DOUBLE ACUTE ACCENT;COMBINING DOUBLE GRAVE ACCENT",
  "COMBINING DOUBLE LOW LINE;COMBINING DOUBLE OVERLINE;COMBINING DOUBLE VERTICAL LINE ABOVE",
  "COMBINING DOWN TACK BELOW;COMBINING GRAVE ACCENT;COMBINING GRAVE ACCENT BELOW",
  "COMBINING GRAVE TONE MARK;COMBINING GREEK DIALYTIKA TONOS;COMBINING GREEK KORONIS",
  "COMBINING GREEK PERISPOMENI;COMBINING GREEK YPOGEGRAMMENI;COMBINING HOOK ABOVE",
  "COMBINING HORN;COMBINING INVERTED BREVE;COMBINING INVERTED BREVE BELOW",
  "COMBINING INVERTED BRIDGE BELOW;COMBINING INVERTED DOUBLE ARCH BELOW",
  "COMBINING LEFT ANGLE ABOVE;COMBINING LEFT HALF RING BELOW;COMBINING LEFT TACK BELOW",
  "COMBINING LONG SOLIDUS OVERLAY;COMBINING LONG STROKE OVERLAY;COMBINING LOW LINE",
  "COMBINING MACRON;COMBINING MACRON BELOW;COMBINING MINUS SIGN BELOW;COMBINING OGONEK",
  "COMBINING OVERLINE;COMBINING PALATALIZED HOOK BELOW;COMBINING PLUS SIGN BELOW",
  "COMBINING RETROFLEX HOOK BELOW;COMBINING REVERSED COMMA ABOVE",
  "COMBINING RIGHT HALF RING BELOW;COMBINING RIGHT TACK BELOW;COMBINING RING ABOVE",
  "COMBINING RING BELOW;COMBINING SEAGULL BELOW;COMBINING SHORT SOLIDUS OVERLAY",
  "COMBINING SHORT STROKE OVERLAY;COMBINING SQUARE BELOW;COMBINING TILDE;COMBINING TILDE BELOW",
  "COMBINING TILDE OVERLAY;COMBINING TURNED COMMA ABOVE;COMBINING UP TACK BELOW",
  "COMBINING VERTICAL LINE ABOVE;COMBINING VERTICAL LINE BELOW;COMBINING VERTICAL TILDE",
  "COMBINING X ABOVE;COMET;COMMA;COMMERCIAL AT;COMMERCIAL MINUS SIGN;COMPASS;COMPLEMENT",
  "COMPOSITION SYMBOL;COMPRESSION;CONFETTI BALL;CONFOUNDED FACE;CONFUSED FACE;CONICAL TAPER",
  "CONJUNCTION;CONSTRUCTION SIGN;CONSTRUCTION WORKER;CONTAINS AS MEMBER",
  "CONTAINS AS NORMAL SUBGROUP;CONTAINS AS NORMAL SUBGROUP OR EQUAL TO",
  "CONTAINS WITH LONG HORIZONTAL STROKE;CONTAINS WITH OVERBAR",
  "CONTAINS WITH VERTICAL BAR AT END OF HORIZONTAL STROKE;CONTINUOUS UNDERLINE SYMBOL",
  "CONTOUR INTEGRAL;CONTROL KNOBS;CONVENIENCE STORE;COOKED RICE;COOKIE;COOKING",
  "COPTIC CAPITAL LETTER DEI;COPTIC CAPITAL LETTER FEI;COPTIC CAPITAL LETTER GANGIA",
  "COPTIC CAPITAL LETTER HORI;COPTIC CAPITAL LETTER KHEI;COPTIC CAPITAL LETTER SHEI",
  "COPTIC CAPITAL LETTER SHIMA;COPTIC SMALL LETTER DEI;COPTIC SMALL LETTER FEI",
  "COPTIC SMALL LETTER GANGIA;COPTIC SMALL LETTER HORI;COPTIC SMALL LETTER KHEI",
  "COPTIC SMALL LETTER SHEI;COPTIC SMALL LETTER SHIMA;COPYRIGHT SIGN;CORRESPONDS TO",
  "COUCH AND LAMP;COUNTERBORE;COUNTERSINK;COUPLE WITH HEART;COW;COW FACE;CR;CRAB;CREDIT CARD",
  "CRESCENT MOON;CRICKET;CRICKET BAT AND BALL;CROCODILE;CROISSANT;CROSS MARK;CROSS OF JERUSALEM",
  "CROSS OF LORRAINE;CROSS POMMEE;CROSS POMMEE WITH HALF-CIRCLE BELOW;CROSSED FLAGS",
  "CROSSED SWORDS;CROSSING LANES;CROWN;CRUZEIRO SIGN;CRYING CAT FACE;CRYING FACE;CRYSTAL BALL",
  "CUBE ROOT;CUCUMBER;CUP ON BLACK SQUARE;CUP WITH STRAW;CUPCAKE;CURLING STONE",
  "CURLY BRACKET EXTENSION;CURLY LOGICAL AND;CURLY LOGICAL OR;CURLY LOOP;CURRENCY EXCHANGE",
  "CURRENCY SIGN;CURRY AND RICE;CURVED STEM PARAGRAPH SIGN ORNAMENT;CUSTARD;CUSTOMS;CUT OF MEAT",
  "CYCLONE;CYLINDRICITY;CYRILLIC CAPITAL LETTER A;CYRILLIC CAPITAL LETTER BE",
  "CYRILLIC CAPITAL LETTER BYELORUSSIAN-UKRAINIAN I;CYRILLIC CAPITAL LETTER CHE",
  "CYRILLIC CAPITAL LETTER DE;CYRILLIC CAPITAL LETTER DJE;CYRILLIC CAPITAL LETTER DZE",
  "CYRILLIC CAPITAL LETTER DZHE;CYRILLIC CAPITAL LETTER E;CYRILLIC CAPITAL LETTER EF",
  "CYRILLIC CAPITAL LETTER EL;CYRILLIC CAPITAL LETTER EM;CYRILLIC CAPITAL LETTER EN",
  "CYRILLIC CAPITAL LETTER ER;CYRILLIC CAPITAL LETTER ES;CYRILLIC CAPITAL LETTER GHE",
  "CYRILLIC CAPITAL LETTER GJE;CYRILLIC CAPITAL LETTER HA;CYRILLIC CAPITAL LETTER HARD SIGN",
  "CYRILLIC CAPITAL LETTER I;CYRILLIC CAPITAL LETTER I WITH GRAVE;CYRILLIC CAPITAL LETTER IE",
  "CYRILLIC CAPITAL LETTER IE WITH GRAVE;CYRILLIC CAPITAL LETTER IO;CYRILLIC CAPITAL LETTER JE",
  "CYRILLIC CAPITAL LETTER KA;CYRILLIC CAPITAL LETTER KJE;CYRILLIC CAPITAL LETTER LJE",
  "CYRILLIC CAPITAL LETTER NJE;CYRILLIC CAPITAL LETTER O;CYRILLIC CAPITAL LETTER PE",
  "CYRILLIC CAPITAL LETTER SHA;CYRILLIC CAPITAL LETTER SHCHA;CYRILLIC CAPITAL LETTER SHORT I",
  "CYRILLIC CAPITAL LETTER SHORT U;CYRILLIC CAPITAL LETTER SOFT SIGN;CYRILLIC CAPITAL LETTER TE",
  "CYRILLIC CAPITAL LETTER TSE;CYRILLIC CAPITAL LETTER TSHE;CYRILLIC CAPITAL LETTER U",
  "CYRILLIC CAPITAL LETTER UKRAINIAN IE;CYRILLIC CAPITAL LETTER VE;CYRILLIC CAPITAL LETTER YA",
  "CYRILLIC CAPITAL LETTER YERU;CYRILLIC CAPITAL LETTER YI;CYRILLIC CAPITAL LETTER YU",
  "CYRILLIC CAPITAL LETTER ZE;CYRILLIC CAPITAL LETTER ZHE;CYRILLIC SMALL LETTER A",
  "CYRILLIC SMALL LETTER BE;CYRILLIC SMALL LETTER BYELORUSSIAN-UKRAINIAN I",
  "CYRILLIC SMALL LETTER CHE;CYRILLIC SMALL LETTER DE;CYRILLIC SMALL LETTER DJE",
  "CYRILLIC SMALL LETTER DZE;CYRILLIC SMALL LETTER DZHE;CYRILLIC SMALL LETTER E",
  "CYRILLIC SMALL LETTER EF;CYRILLIC SMALL LETTER EL;CYRILLIC SMALL LETTER EM",
  "CYRILLIC SMALL LETTER EN;CYRILLIC SMALL LETTER ER;CYRILLIC SMALL LETTER ES",
  "CYRILLIC SMALL LETTER GHE;CYRILLIC SMALL LETTER GJE;CYRILLIC SMALL LETTER HA",
  "CYRILLIC SMALL LETTER HARD SIGN;CYRILLIC SMALL LETTER I;CYRILLIC SMALL LETTER I WITH GRAVE",
  "CYRILLIC SMALL LETTER IE;CYRILLIC SMALL LETTER IE WITH GRAVE;CYRILLIC SMALL LETTER IO",
  "CYRILLIC SMALL LETTER JE;CYRILLIC SMALL LETTER KA;CYRILLIC SMALL LETTER KJE",
  "CYRILLIC SMALL LETTER LJE;CYRILLIC SMALL LETTER NJE;CYRILLIC SMALL LETTER O",
  "CYRILLIC SMALL LETTER PE;CYRILLIC SMALL LETTER SHA;CYRILLIC SMALL LETTER SHCHA",
  "CYRILLIC SMALL LETTER SHORT I;CYRILLIC SMALL LETTER SHORT U;CYRILLIC SMALL LETTER SOFT SIGN",
  "CYRILLIC SMALL LETTER TE;CYRILLIC SMALL LETTER TSE;CYRILLIC SMALL LETTER TSHE",
  "CYRILLIC SMALL LETTER U;CYRILLIC SMALL LETTER UKRAINIAN IE;CYRILLIC SMALL LETTER VE",
  "CYRILLIC SMALL LETTER YA;CYRILLIC SMALL LETTER YERU;CYRILLIC SMALL LETTER YI",
  "CYRILLIC SMALL LETTER YU;CYRILLIC SMALL LETTER ZE;CYRILLIC SMALL LETTER ZHE;DAGGER",
  "DAGGER KNIFE;DALET SYMBOL;DANCER;DANGO;DARK SHADE;DARK SUNGLASSES;DASH SYMBOL",
  "DASHED TRIANGLE-HEADED RIGHTWARDS ARROW;DATA LINK ESCAPE;DEAF PERSON;DECIDUOUS TREE",
  "DECIMAL EXPONENT SYMBOL;DECIMAL SEPARATOR KEY SYMBOL;DECREASE FONT SIZE SYMBOL;DEER",
  "DEGREE CELSIUS;DEGREE FAHRENHEIT;DEGREE SIGN;DEL;DELETE;DELIVERY TRUCK;DELTA EQUAL TO",
  "DENTISTRY SYMBOL LIGHT DOWN AND HORIZONTAL",
  "DENTISTRY SYMBOL LIGHT DOWN AND HORIZONTAL WITH CIRCLE",
  "DENTISTRY SYMBOL LIGHT DOWN AND HORIZONTAL WITH TRIANGLE",
  "DENTISTRY SYMBOL LIGHT DOWN AND HORIZONTAL WITH WAVE",
  "DENTISTRY SYMBOL LIGHT UP AND HORIZONTAL",
  "DENTISTRY SYMBOL LIGHT UP AND HORIZONTAL WITH CIRCLE",
  "DENTISTRY SYMBOL LIGHT UP AND HORIZONTAL WITH TRIANGLE",
  "DENTISTRY SYMBOL LIGHT UP AND HORIZONTAL WITH WAVE",
  "DENTISTRY SYMBOL LIGHT VERTICAL AND BOTTOM LEFT",
  "DENTISTRY SYMBOL LIGHT VERTICAL AND BOTTOM RIGHT",
  "DENTISTRY SYMBOL LIGHT VERTICAL AND TOP LEFT;DENTISTRY SYMBOL LIGHT VERTICAL AND TOP RIGHT",
  "DENTISTRY SYMBOL LIGHT VERTICAL AND WAVE;DENTISTRY SYMBOL LIGHT VERTICAL WITH CIRCLE",
  "DENTISTRY SYMBOL LIGHT VERTICAL WITH TRIANGLE;DEPARTMENT STORE;DERELICT HOUSE BUILDING",
  "DESCENDING NODE;DESERT;DESERT ISLAND;DESKTOP COMPUTER;DESKTOP WINDOW;DIAERESIS;DIAMETER SIGN",
  "DIAMOND OPERATOR;DIAMOND SHAPE WITH A DOT INSIDE;DIAMOND WITH BOTTOM HALF BLACK",
  "DIAMOND WITH LEFT HALF BLACK;DIAMOND WITH RIGHT HALF BLACK;DIAMOND WITH TOP HALF BLACK",
  "DIE FACE-1;DIE FACE-2;DIE FACE-3;DIE FACE-4;DIE FACE-5;DIE FACE-6;DIESEL LOCOMOTIVE",
  "DIFFERENCE BETWEEN;DIGIT EIGHT;DIGIT EIGHT FULL STOP;DIGIT FIVE;DIGIT FIVE FULL STOP",
  "DIGIT FOUR;DIGIT FOUR FULL STOP;DIGIT NINE;DIGIT NINE FULL STOP;DIGIT ONE",
  "DIGIT ONE FULL STOP;DIGIT SEVEN;DIGIT SEVEN FULL STOP;DIGIT SIX;DIGIT SIX FULL STOP",
  "DIGIT THREE;DIGIT THREE FULL STOP;DIGIT TWO;DIGIT TWO FULL STOP;DIGIT ZERO",
  "DIGRAM FOR GREATER YANG;DIGRAM FOR GREATER YIN;DIGRAM FOR LESSER YANG;DIGRAM FOR LESSER YIN",
  "DIMENSION ORIGIN;DINGBAT CIRCLED SANS-SERIF DIGIT EIGHT",
  "DINGBAT CIRCLED SANS-SERIF DIGIT FIVE;DINGBAT CIRCLED SANS-SERIF DIGIT FOUR",
  "DINGBAT CIRCLED SANS-SERIF DIGIT NINE;DINGBAT CIRCLED SANS-SERIF DIGIT ONE",
  "DINGBAT CIRCLED SANS-SERIF DIGIT SEVEN;DINGBAT CIRCLED SANS-SERIF DIGIT SIX",
  "DINGBAT CIRCLED SANS-SERIF DIGIT THREE;DINGBAT CIRCLED SANS-SERIF DIGIT TWO",
  "DINGBAT CIRCLED SANS-SERIF NUMBER TEN;DINGBAT NEGATIVE CIRCLED DIGIT EIGHT",
  "DINGBAT NEGATIVE CIRCLED DIGIT FIVE;DINGBAT NEGATIVE CIRCLED DIGIT FOUR",
  "DINGBAT NEGATIVE CIRCLED DIGIT NINE;DINGBAT NEGATIVE CIRCLED DIGIT ONE",
  "DINGBAT NEGATIVE CIRCLED DIGIT SEVEN;DINGBAT NEGATIVE CIRCLED DIGIT SIX",
  "DINGBAT NEGATIVE CIRCLED DIGIT THREE;DINGBAT NEGATIVE CIRCLED DIGIT TWO",
  "DINGBAT NEGATIVE CIRCLED NUMBER TEN;DINGBAT NEGATIVE CIRCLED SANS-SERIF DIGIT EIGHT",
  "DINGBAT NEGATIVE CIRCLED SANS-SERIF DIGIT FIVE",
  "DINGBAT NEGATIVE CIRCLED SANS-SERIF DIGIT FOUR",
  "DINGBAT NEGATIVE CIRCLED SANS-SERIF DIGIT NINE;DINGBAT NEGATIVE CIRCLED SANS-SERIF DIGIT ONE",
  "DINGBAT NEGATIVE CIRCLED SANS-SERIF DIGIT SEVEN",
  "DINGBAT NEGATIVE CIRCLED SANS-SERIF DIGIT SIX",
  "DINGBAT NEGATIVE CIRCLED SANS-SERIF DIGIT THREE",
  "DINGBAT NEGATIVE CIRCLED SANS-SERIF DIGIT TWO;DINGBAT NEGATIVE CIRCLED SANS-SERIF NUMBER TEN",
  "DIRECT CURRENT SYMBOL FORM TWO;DIRECT HIT;DISABLED CAR;DISAPPOINTED BUT RELIEVED FACE",
  "DISAPPOINTED FACE;DISCONTINUOUS UNDERLINE SYMBOL;DISGUISED FACE;DITTO MARK;DIVIDES",
  "DIVING MASK;DIVISION SIGN;DIVISION SLASH;DIVISION TIMES;DIVORCE SYMBOL;DIZZY FACE",
  "DIZZY SYMBOL;DNA DOUBLE HELIX;DO NOT LITTER SYMBOL;DOCUMENT;DOCUMENT WITH PICTURE",
  "DOCUMENT WITH TEXT;DOCUMENT WITH TEXT AND PICTURE;DODO;DOES NOT CONTAIN AS MEMBER",
  "DOES NOT CONTAIN AS NORMAL SUBGROUP;DOES NOT CONTAIN AS NORMAL SUBGROUP OR EQUAL",
  "DOES NOT DIVIDE;DOES NOT FORCE;DOES NOT PRECEDE;DOES NOT PRECEDE OR EQUAL;DOES NOT PROVE",
  "DOES NOT SUCCEED;DOES NOT SUCCEED OR EQUAL;DOG;DOG FACE;DOLLAR SIGN;DOLPHIN;DONG SIGN;DOOR",
  "DOT ABOVE;DOT MINUS;DOT OPERATOR;DOT PLUS;DOTTED CIRCLE;DOTTED CROSS;DOTTED SQUARE",
  "DOUBLE ACUTE ACCENT;DOUBLE CIRCLED DIGIT EIGHT;DOUBLE CIRCLED DIGIT FIVE",
  "DOUBLE CIRCLED DIGIT FOUR;DOUBLE CIRCLED DIGIT NINE;DOUBLE CIRCLED DIGIT ONE",
  "DOUBLE CIRCLED DIGIT SEVEN;DOUBLE CIRCLED DIGIT SIX;DOUBLE CIRCLED DIGIT THREE",
  "DOUBLE CIRCLED DIGIT TWO;DOUBLE CIRCLED NUMBER TEN;DOUBLE CURLY LOOP;DOUBLE DAGGER",
  "DOUBLE EXCLAMATION MARK;DOUBLE HIGH-REVERSED-9 QUOTATION MARK;DOUBLE INTEGRAL",
  "DOUBLE INTERSECTION;DOUBLE LOW LINE;DOUBLE LOW-9 QUOTATION MARK;DOUBLE PRIME",
  "DOUBLE PRIME QUOTATION MARK;DOUBLE QUESTION MARK;DOUBLE SUBSET;DOUBLE SUPERSET;DOUBLE UNION",
  "DOUBLE VERTICAL BAR;DOUBLE VERTICAL BAR DOUBLE RIGHT TURNSTILE;DOUBLE VERTICAL LINE",
  "DOUBLE-STRUCK CAPITAL C;DOUBLE-STRUCK CAPITAL GAMMA;DOUBLE-STRUCK CAPITAL H",
  "DOUBLE-STRUCK CAPITAL N;DOUBLE-STRUCK CAPITAL P;DOUBLE-STRUCK CAPITAL PI",
  "DOUBLE-STRUCK CAPITAL Q;DOUBLE-STRUCK CAPITAL R;DOUBLE-STRUCK CAPITAL Z",
  "DOUBLE-STRUCK ITALIC CAPITAL D;DOUBLE-STRUCK ITALIC SMALL D;DOUBLE-STRUCK ITALIC SMALL E",
  "DOUBLE-STRUCK ITALIC SMALL I;DOUBLE-STRUCK ITALIC SMALL J;DOUBLE-STRUCK N-ARY SUMMATION",
  "DOUBLE-STRUCK SMALL GAMMA;DOUBLE-STRUCK SMALL PI;DOUBLED FEMALE SIGN;DOUBLED MALE SIGN",
  "DOUGHNUT;DOVE OF PEACE;DOWN ARROWHEAD;DOWN RIGHT DIAGONAL ELLIPSIS;DOWN TACK",
  "DOWN-POINTING RED TRIANGLE;DOWN-POINTING SMALL RED TRIANGLE;DOWNWARD FACING HOOK",
  "DOWNWARD FACING HOOK WITH DOT;DOWNWARD FACING NOTCHED HOOK",
  "DOWNWARD FACING NOTCHED HOOK WITH DOT;DOWNWARDS ARROW;DOWNWARDS ARROW FROM BAR",
  "DOWNWARDS ARROW LEFTWARDS OF UPWARDS ARROW;DOWNWARDS ARROW WITH CORNER LEFTWARDS",
  "DOWNWARDS ARROW WITH DOUBLE STROKE;DOWNWARDS ARROW WITH TIP LEFTWARDS",
  "DOWNWARDS ARROW WITH TIP RIGHTWARDS;DOWNWARDS BLACK ARROW;DOWNWARDS DASHED ARROW",
  "DOWNWARDS DOUBLE ARROW;DOWNWARDS HARPOON WITH BARB LEFTWARDS",
  "DOWNWARDS HARPOON WITH BARB RIGHTWARDS;DOWNWARDS PAIRED ARROWS",
  "DOWNWARDS TRIANGLE-HEADED ZIGZAG ARROW;DOWNWARDS TWO HEADED ARROW;DOWNWARDS WHITE ARROW",
  "DOWNWARDS ZIGZAG ARROW;DRACHMA SIGN;DRAFTING POINT RIGHTWARDS ARROW;DRAGON;DRAGON FACE;DRESS",
  "DRIVE SLOW SIGN;DROMEDARY CAMEL;DROOLING FACE;DROPLET;DRUM WITH DRUMSTICKS;DUCK;DUMPLING;DVD",
  "E-MAIL SYMBOL;EAGLE;EAR;EAR OF MAIZE;EAR OF RICE;EAR WITH HEARING AID;EARTH",
  "EARTH GLOBE AMERICAS;EARTH GLOBE ASIA-AUSTRALIA;EARTH GLOBE EUROPE-AFRICA;EARTH GROUND",
  "EAST SYRIAC CROSS;EGG;EIGHT PETALLED OUTLINED BLACK FLORETTE;EIGHT POINTED BLACK STAR",
  "EIGHT POINTED PINWHEEL STAR;EIGHT POINTED RECTILINEAR BLACK STAR;EIGHT SPOKED ASTERISK",
  "EIGHT TEARDROP-SPOKED PROPELLER ASTERISK;EIGHTH NOTE;EJECT SYMBOL;ELECTRIC ARROW",
  "ELECTRIC LIGHT BULB;ELECTRIC PLUG;ELECTRIC TORCH;ELECTRICAL INTERSECTION;ELEMENT OF",
  "ELEMENT OF WITH DOT ABOVE;ELEMENT OF WITH LONG HORIZONTAL STROKE;ELEMENT OF WITH OVERBAR",
  "ELEMENT OF WITH TWO HORIZONTAL STROKES;ELEMENT OF WITH UNDERBAR",
  "ELEMENT OF WITH VERTICAL BAR AT END OF HORIZONTAL STROKE;ELEPHANT;ELEVATOR;ELF;EM DASH",
  "EM QUAD;EM SPACE;EMOJI COMPONENT BALD;EMOJI COMPONENT CURLY HAIR;EMOJI COMPONENT RED HAIR",
  "EMOJI COMPONENT WHITE HAIR;EMOJI MODIFIER FITZPATRICK TYPE-1-2",
  "EMOJI MODIFIER FITZPATRICK TYPE-3;EMOJI MODIFIER FITZPATRICK TYPE-4",
  "EMOJI MODIFIER FITZPATRICK TYPE-5;EMOJI MODIFIER FITZPATRICK TYPE-6;EMPHASIS SYMBOL",
  "EMPTY DOCUMENT;EMPTY NOTE;EMPTY NOTE PAD;EMPTY NOTE PAGE;EMPTY PAGE;EMPTY PAGES;EMPTY SET",
  "EN DASH;EN QUAD;EN SPACE;END OF LINE;END OF PROOF;END OF TEXT;END OF TRANSMISSION",
  "END WITH LEFTWARDS ARROW ABOVE;ENQUIRY;ENTER SYMBOL;ENVELOPE",
  "ENVELOPE WITH DOWNWARDS ARROW ABOVE;ENVELOPE WITH LIGHTNING;EOL;EQUAL AND PARALLEL TO",
  "EQUAL TO BY DEFINITION;EQUAL TO OR GREATER-THAN;EQUAL TO OR LESS-THAN;EQUAL TO OR PRECEDES",
  "EQUAL TO OR SUCCEEDS;EQUALS COLON;EQUALS SIGN;EQUALS SIGN ABOVE LEFTWARDS ARROW",
  "EQUIANGULAR TO;EQUIVALENT TO;ERASE TO THE LEFT;ERASE TO THE RIGHT;ESC;ESCAPE",
  "ESTIMATED SYMBOL;ESTIMATES;EULER CONSTANT;EURO SIGN;EURO-CURRENCY SIGN;EUROPEAN CASTLE",
  "EUROPEAN POST OFFICE;EVERGREEN TREE;EXCESS;EXCLAMATION MARK;EXCLAMATION QUESTION MARK",
  "EXPRESSIONLESS FACE;EXTRATERRESTRIAL ALIEN;EYE;EYEGLASSES;EYES;FACE HOLDING BACK TEARS",
  "FACE MASSAGE;FACE PALM;FACE SAVOURING DELICIOUS FOOD;FACE SCREAMING IN FEAR",
  "FACE THROWING A KISS;FACE WITH COLD SWEAT;FACE WITH COWBOY HAT",
  "FACE WITH FINGER COVERING CLOSED LIPS;FACE WITH HEAD-BANDAGE;FACE WITH LOOK OF TRIUMPH",
  "FACE WITH MEDICAL MASK;FACE WITH MONOCLE;FACE WITH NO GOOD GESTURE;FACE WITH OK GESTURE",
  "FACE WITH ONE EYEBROW RAISED;FACE WITH OPEN MOUTH;FACE WITH OPEN MOUTH AND COLD SWEAT",
  "FACE WITH OPEN MOUTH VOMITING;FACE WITH PARTY HORN AND PARTY HAT;FACE WITH PLEADING EYES",
  "FACE WITH ROLLING EYES;FACE WITH STUCK-OUT TONGUE",
  "FACE WITH STUCK-OUT TONGUE AND TIGHTLY-CLOSED EYES",
  "FACE WITH STUCK-OUT TONGUE AND WINKING EYE;FACE WITH TEARS OF JOY;FACE WITH THERMOMETER",
  "FACE WITH UNEVEN EYES AND WAVY MOUTH;FACE WITHOUT MOUTH;FACSIMILE SIGN;FACTORY;FAIRY;FALAFEL",
  "FALLEN LEAF;FALLING DIAGONAL IN WHITE CIRCLE IN BLACK SQUARE;FAMILY;FARSI SYMBOL",
  "FATHER CHRISTMAS;FAX ICON;FAX MACHINE;FEARFUL FACE;FEMALE SIGN;FEMININE ORDINAL INDICATOR",
  "FENCER;FERRIS WHEEL;FERRY;FF;FIELD HOCKEY STICK AND BALL;FIGURE DASH;FIGURE SPACE",
  "FILE CABINET;FILE FOLDER;FILM FRAMES;FILM PROJECTOR;FIRE;FIRE ENGINE;FIRE EXTINGUISHER",
  "FIRECRACKER;FIREWORK SPARKLER;FIREWORKS;FIRST PLACE MEDAL;FIRST QUARTER MOON",
  "FIRST QUARTER MOON SYMBOL;FIRST QUARTER MOON WITH FACE;FISH;FISH CAKE WITH SWIRL DESIGN",
  "FISHEYE;FISHING POLE AND FISH;FISTED HAND SIGN;FIVE DOT PUNCTUATION;FLAG IN HOLE;FLAMINGO",
  "FLAT SHOE;FLATNESS;FLEUR-DE-LIS;FLEXED BICEPS;FLOPPY DISK;FLORAL HEART;FLOWER",
  "FLOWER PLAYING CARDS;FLOWER PUNCTUATION MARK;FLUSHED FACE;FLYING DISC;FLYING ENVELOPE",
  "FLYING SAUCER;FOG;FOGGY;FOLDER;FOOT;FOOTPRINTS;FOR ALL;FORCES;FORK AND KNIFE",
  "FORK AND KNIFE WITH PLATE;FORM FEED;FORTUNE COOKIE;FOUNTAIN;FOUR BALLOON-SPOKED ASTERISK",
  "FOUR CLUB-SPOKED ASTERISK;FOUR DOT MARK;FOUR DOT PUNCTUATION;FOUR LEAF CLOVER",
  "FOUR TEARDROP-SPOKED ASTERISK;FOUR-PER-EM SPACE;FOURTH ROOT;FOX FACE;FRACTION NUMERATOR ONE",
  "FRACTION SLASH;FRAME WITH AN X;FRAME WITH PICTURE;FRAME WITH TILES;FREEZING FACE",
  "FRENCH FRANC SIGN;FRENCH FRIES;FRIED SHRIMP;FROG FACE;FRONT-FACING BABY CHICK",
  "FRONT-TILTED SHADOWED WHITE RIGHTWARDS ARROW;FROWN;FROWNING FACE WITH OPEN MOUTH;FUEL PUMP",
  "FULL BLOCK;FULL MOON SYMBOL;FULL MOON WITH FACE;FULL STOP;FUNERAL URN;FUSE;GAME DIE;GARLIC",
  "GEAR;GEAR WITH HANDLES;GEAR WITHOUT HUB;GEM STONE;GEMINI;GENIE;GEOMETRIC PROPORTION",
  "GEOMETRICALLY EQUAL TO;GEOMETRICALLY EQUIVALENT TO;GERMAN PENNY SIGN;GETA MARK;GHOST",
  "GIMEL SYMBOL;GIRAFFE FACE;GIRL;GIRLS SYMBOL;GLASS OF MILK;GLOBE WITH MERIDIANS;GLOVES",
  "GLOWING STAR;GOAL NET;GOAT;GOGGLES;GOLFER;GORILLA;GRADUATION CAP;GRAPES;GRAVE ACCENT",
  "GREATER-THAN BUT NOT EQUAL TO;GREATER-THAN BUT NOT EQUIVALENT TO",
  "GREATER-THAN EQUAL TO OR LESS-THAN;GREATER-THAN OR EQUAL TO;GREATER-THAN OR EQUIVALENT TO",
  "GREATER-THAN OR LESS-THAN;GREATER-THAN OVER EQUAL TO;GREATER-THAN SIGN;GREATER-THAN WITH DOT",
  "GREEK ANO TELEIA;GREEK BETA SYMBOL;GREEK CAPITAL DOTTED LUNATE SIGMA SYMBOL",
  "GREEK CAPITAL KAI SYMBOL;GREEK CAPITAL LETTER ALPHA;GREEK CAPITAL LETTER ALPHA WITH TONOS",
  "GREEK CAPITAL LETTER ARCHAIC SAMPI;GREEK CAPITAL LETTER BETA;GREEK CAPITAL LETTER CHI",
  "GREEK CAPITAL LETTER DELTA;GREEK CAPITAL LETTER EPSILON",
  "GREEK CAPITAL LETTER EPSILON WITH TONOS;GREEK CAPITAL LETTER ETA",
  "GREEK CAPITAL LETTER ETA WITH TONOS;GREEK CAPITAL LETTER GAMMA;GREEK CAPITAL LETTER HETA",
  "GREEK CAPITAL LETTER IOTA;GREEK CAPITAL LETTER IOTA WITH DIALYTIKA",
  "GREEK CAPITAL LETTER IOTA WITH TONOS;GREEK CAPITAL LETTER KAPPA;GREEK CAPITAL LETTER LAMDA",
  "GREEK CAPITAL LETTER MU;GREEK CAPITAL LETTER NU;GREEK CAPITAL LETTER OMEGA",
  "GREEK CAPITAL LETTER OMEGA WITH TONOS;GREEK CAPITAL LETTER OMICRON",
  "GREEK CAPITAL LETTER OMICRON WITH TONOS;GREEK CAPITAL LETTER PAMPHYLIAN DIGAMMA",
  "GREEK CAPITAL LETTER PHI;GREEK CAPITAL LETTER PI;GREEK CAPITAL LETTER PSI",
  "GREEK CAPITAL LETTER RHO;GREEK CAPITAL LETTER SAN;GREEK CAPITAL LETTER SHO",
  "GREEK CAPITAL LETTER SIGMA;GREEK CAPITAL LETTER TAU;GREEK CAPITAL LETTER THETA",
  "GREEK CAPITAL LETTER UPSILON;GREEK CAPITAL LETTER UPSILON WITH DIALYTIKA",
  "GREEK CAPITAL LETTER UPSILON WITH TONOS;GREEK CAPITAL LETTER XI;GREEK CAPITAL LETTER YOT",
  "GREEK CAPITAL LETTER ZETA;GREEK CAPITAL LUNATE SIGMA SYMBOL",
  "GREEK CAPITAL REVERSED DOTTED LUNATE SIGMA SYMBOL;GREEK CAPITAL REVERSED LUNATE SIGMA SYMBOL",
  "GREEK CAPITAL THETA SYMBOL;GREEK DIALYTIKA TONOS;GREEK KAI SYMBOL;GREEK KAPPA SYMBOL",
  "GREEK LETTER ARCHAIC KOPPA;GREEK LETTER DIGAMMA;GREEK LETTER KOPPA;GREEK LETTER SAMPI",
  "GREEK LETTER STIGMA;GREEK LETTER YOT;GREEK LOWER NUMERAL SIGN;GREEK LUNATE EPSILON SYMBOL",
  "GREEK LUNATE SIGMA SYMBOL;GREEK NUMERAL SIGN;GREEK PHI SYMBOL;GREEK PI SYMBOL",
  "GREEK QUESTION MARK;GREEK REVERSED LUNATE EPSILON SYMBOL;GREEK RHO SYMBOL",
  "GREEK RHO WITH STROKE SYMBOL;GREEK SMALL DOTTED LUNATE SIGMA SYMBOL;GREEK SMALL LETTER ALPHA",
  "GREEK SMALL LETTER ALPHA WITH TONOS;GREEK SMALL LETTER ARCHAIC KOPPA",
  "GREEK SMALL LETTER ARCHAIC SAMPI;GREEK SMALL LETTER BETA;GREEK SMALL LETTER CHI",
  "GREEK SMALL LETTER DELTA;GREEK SMALL LETTER DIGAMMA;GREEK SMALL LETTER EPSILON",
  "GREEK SMALL LETTER EPSILON WITH TONOS;GREEK SMALL LETTER ETA",
  "GREEK SMALL LETTER ETA WITH TONOS;GREEK SMALL LETTER FINAL SIGMA;GREEK SMALL LETTER GAMMA",
  "GREEK SMALL LETTER HETA;GREEK SMALL LETTER IOTA;GREEK SMALL LETTER IOTA WITH DIALYTIKA",
  "GREEK SMALL LETTER IOTA WITH DIALYTIKA AND TONOS;GREEK SMALL LETTER IOTA WITH TONOS",
  "GREEK SMALL LETTER KAPPA;GREEK SMALL LETTER KOPPA;GREEK SMALL LETTER LAMDA",
  "GREEK SMALL LETTER MU;GREEK SMALL LETTER NU;GREEK SMALL LETTER OMEGA",
  "GREEK SMALL LETTER OMEGA WITH TONOS;GREEK SMALL LETTER OMICRON",
  "GREEK SMALL LETTER OMICRON WITH TONOS;GREEK SMALL LETTER PAMPHYLIAN DIGAMMA",
  "GREEK SMALL LETTER PHI;GREEK SMALL LETTER PI;GREEK SMALL LETTER PSI;GREEK SMALL LETTER RHO",
  "GREEK SMALL LETTER SAMPI;GREEK SMALL LETTER SAN;GREEK SMALL LETTER SHO",
  "GREEK SMALL LETTER SIGMA;GREEK SMALL LETTER STIGMA;GREEK SMALL LETTER TAU",
  "GREEK SMALL LETTER THETA;GREEK SMALL LETTER UPSILON",
  "GREEK SMALL LETTER UPSILON WITH DIALYTIKA",
  "GREEK SMALL LETTER UPSILON WITH DIALYTIKA AND TONOS;GREEK SMALL LETTER UPSILON WITH TONOS",
  "GREEK SMALL LETTER XI;GREEK SMALL LETTER ZETA",
  "GREEK SMALL REVERSED DOTTED LUNATE SIGMA SYMBOL;GREEK SMALL REVERSED LUNATE SIGMA SYMBOL",
  "GREEK THETA SYMBOL;GREEK TONOS;GREEK UPSILON WITH ACUTE AND HOOK SYMBOL",
  "GREEK UPSILON WITH DIAERESIS AND HOOK SYMBOL;GREEK UPSILON WITH HOOK SYMBOL",
  "GREEK YPOGEGRAMMENI;GREEN APPLE;GREEN BOOK;GREEN HEART;GREEN SALAD;GRIMACING FACE",
  "GRINNING CAT FACE WITH SMILING EYES;GRINNING FACE",
  "GRINNING FACE WITH ONE LARGE AND ONE SMALL EYE;GRINNING FACE WITH SMILING EYES",
  "GRINNING FACE WITH STAR EYES;GROWING HEART;GUARANI SIGN;GUARDSMAN;GUIDE DOG;GUITAR",
  "HAIR SPACE;HAIRCUT;HAMBURGER;HAMMER;HAMMER AND PICK;HAMMER AND SICKLE;HAMMER AND WRENCH",
  "HAMSTER FACE;HAND WITH INDEX AND MIDDLE FINGERS CROSSED;HANDBAG;HANDBALL;HANDSHAKE",
  "HAPPY PERSON RAISING ONE HAND;HARD DISK;HATCHING CHICK;HEADPHONE;HEADSTONE GRAVEYARD SYMBOL",
  "HEAR-NO-EVIL MONKEY;HEART DECORATION;HEART WITH ARROW;HEART WITH RIBBON",
  "HEART WITH TIP ON THE LEFT;HEAVY ASTERISK;HEAVY BALLOT X",
  "HEAVY BLACK CURVED DOWNWARDS AND RIGHTWARDS ARROW",
  "HEAVY BLACK CURVED UPWARDS AND RIGHTWARDS ARROW;HEAVY BLACK HEART",
  "HEAVY BLACK-FEATHERED NORTH EAST ARROW;HEAVY BLACK-FEATHERED RIGHTWARDS ARROW",
  "HEAVY BLACK-FEATHERED SOUTH EAST ARROW;HEAVY CHECK MARK;HEAVY CHEVRON SNOWFLAKE",
  "HEAVY CIRCLE WITH STROKE AND TWO DOTS ABOVE;HEAVY CONCAVE-POINTED BLACK RIGHTWARDS ARROW",
  "HEAVY DASHED TRIANGLE-HEADED RIGHTWARDS ARROW;HEAVY DIVISION SIGN;HEAVY DOLLAR SIGN",
  "HEAVY DOUBLE COMMA QUOTATION MARK ORNAMENT;HEAVY DOUBLE TURNED COMMA QUOTATION MARK ORNAMENT",
  "HEAVY EIGHT POINTED RECTILINEAR BLACK STAR;HEAVY EIGHT TEARDROP-SPOKED PROPELLER ASTERISK",
  "HEAVY EXCLAMATION MARK ORNAMENT;HEAVY EXCLAMATION MARK SYMBOL",
  "HEAVY FOUR BALLOON-SPOKED ASTERISK;HEAVY GREEK CROSS;HEAVY HEART EXCLAMATION MARK ORNAMENT",
  "HEAVY LARGE CIRCLE;HEAVY LATIN CROSS;HEAVY LEFT-POINTING ANGLE BRACKET ORNAMENT",
  "HEAVY LEFT-POINTING ANGLE QUOTATION MARK ORNAMENT",
  "HEAVY LOW DOUBLE COMMA QUOTATION MARK ORNAMENT",
  "HEAVY LOW SINGLE COMMA QUOTATION MARK ORNAMENT",
  "HEAVY LOWER RIGHT-SHADOWED WHITE RIGHTWARDS ARROW;HEAVY MINUS SIGN;HEAVY MULTIPLICATION X",
  "HEAVY NORTH EAST ARROW;HEAVY OPEN CENTRE CROSS;HEAVY OUTLINED BLACK STAR;HEAVY PLUS SIGN",
  "HEAVY RIGHT-POINTING ANGLE BRACKET ORNAMENT",
  "HEAVY RIGHT-POINTING ANGLE QUOTATION MARK ORNAMENT;HEAVY RIGHTWARDS ARROW",
  "HEAVY ROUND-TIPPED RIGHTWARDS ARROW;HEAVY SINGLE COMMA QUOTATION MARK ORNAMENT",
  "HEAVY SINGLE TURNED COMMA QUOTATION MARK ORNAMENT;HEAVY SOUTH EAST ARROW;HEAVY SPARKLE",
  "HEAVY TEARDROP-SHANKED RIGHTWARDS ARROW;HEAVY TEARDROP-SPOKED ASTERISK",
  "HEAVY TEARDROP-SPOKED PINWHEEL ASTERISK;HEAVY TRIANGLE-HEADED RIGHTWARDS ARROW",
  "HEAVY UPPER RIGHT-SHADOWED WHITE RIGHTWARDS ARROW;HEAVY VERTICAL BAR",
  "HEAVY WEDGE-TAILED RIGHTWARDS ARROW;HEAVY WHITE DOWN-POINTING TRIANGLE",
  "HEAVY WIDE-HEADED RIGHTWARDS ARROW;HEBREW LETTER ALEF;HEBREW LETTER AYIN;HEBREW LETTER BET",
  "HEBREW LETTER DALET;HEBREW LETTER FINAL KAF;HEBREW LETTER FINAL MEM;HEBREW LETTER FINAL NUN",
  "HEBREW LETTER FINAL PE;HEBREW LETTER FINAL TSADI;HEBREW LETTER GIMEL;HEBREW LETTER HE",
  "HEBREW LETTER HET;HEBREW LETTER KAF;HEBREW LETTER LAMED;HEBREW LETTER MEM;HEBREW LETTER NUN",
  "HEBREW LETTER PE;HEBREW LETTER QOF;HEBREW LETTER RESH;HEBREW LETTER SAMEKH",
  "HEBREW LETTER SHIN;HEBREW LETTER TAV;HEBREW LETTER TET;HEBREW LETTER TSADI;HEBREW LETTER VAV",
  "HEBREW LETTER YOD;HEBREW LETTER ZAYIN;HEDGEHOG;HELICOPTER;HELM SYMBOL",
  "HELMET WITH WHITE CROSS;HERB;HERMITIAN CONJUGATE MATRIX;HIBISCUS;HIGH BRIGHTNESS SYMBOL",
  "HIGH VOLTAGE SIGN;HIGH-HEELED SHOE;HIGH-SPEED TRAIN;HIGH-SPEED TRAIN WITH BULLET NOSE",
  "HIKING BOOT;HINDU TEMPLE;HIPPOPOTAMUS;HISTORIC SITE;HOCHO;HOLE;HOMOTHETIC;HONEY POT;HONEYBEE",
  "HORIZONTAL BAR;HORIZONTAL BLACK HEXAGON;HORIZONTAL ELLIPSIS;HORIZONTAL LINE EXTENSION",
  "HORIZONTAL MALE WITH STROKE SIGN;HORIZONTAL SCAN LINE-1;HORIZONTAL SCAN LINE-3",
  "HORIZONTAL SCAN LINE-7;HORIZONTAL SCAN LINE-9;HORIZONTAL TABULATION;HORIZONTAL TRAFFIC LIGHT",
  "HORSE;HORSE FACE;HORSE RACING;HOSPITAL;HOT BEVERAGE;HOT DOG;HOT PEPPER;HOT SPRINGS;HOTEL",
  "HOURGLASS;HOURGLASS WITH FLOWING SAND;HOUSE;HOUSE BUILDING;HOUSE BUILDINGS;HOUSE WITH GARDEN",
  "HRYVNIA SIGN;HT;HUGGING FACE;HUNDRED POINTS SYMBOL;HUSHED FACE;HUT;HYPHEN;HYPHEN BULLET",
  "HYPHEN-MINUS;HYPHENATION POINT;HYSTERESIS SYMBOL;I LOVE YOU HAND SIGN;ICE CREAM;ICE CUBE",
  "ICE HOCKEY STICK AND PUCK;ICE SKATE;IDENTICAL TO;IDEOGRAPHIC CLOSING MARK;IDEOGRAPHIC COMMA",
  "IDEOGRAPHIC FULL STOP;IDEOGRAPHIC ITERATION MARK;IDEOGRAPHIC NUMBER ZERO;IDEOGRAPHIC SPACE",
  "IMAGE OF;IMAGE OF OR APPROXIMATELY EQUAL TO;IMP;INBOX TRAY;INCOMING ENVELOPE",
  "INCREASE FONT SIZE SYMBOL;INCREMENT;INDIAN RUPEE SIGN;INFINITY;INFORMATION DESK PERSON",
  "INFORMATION SOURCE;INPUT SYMBOL FOR LATIN CAPITAL LETTERS;INPUT SYMBOL FOR LATIN LETTERS",
  "INPUT SYMBOL FOR LATIN SMALL LETTERS;INPUT SYMBOL FOR NUMBERS;INPUT SYMBOL FOR SYMBOLS",
  "INSERTION SYMBOL;INTEGRAL;INTEGRAL EXTENSION;INTERCALATE;INTERLOCKED FEMALE AND MALE SIGN",
  "INTERROBANG;INTERSECTION;INVERSE BULLET;INVERSE WHITE CIRCLE;INVERTED EXCLAMATION MARK",
  "INVERTED LAZY S;INVERTED OHM SIGN;INVERTED PENTAGRAM;INVERTED QUESTION MARK",
  "INVERTED UNDERTIE;IZAKAYA LANTERN;JACK-O-LANTERN;JAPANESE BANK SYMBOL;JAPANESE CASTLE",
  "JAPANESE DOLLS;JAPANESE GOBLIN;JAPANESE INDUSTRIAL STANDARD SYMBOL;JAPANESE OGRE",
  "JAPANESE POST OFFICE;JAPANESE SYMBOL FOR BEGINNER;JEANS;JIGSAW PUZZLE PIECE;JOYSTICK",
  "JUGGLING;JUNO;JUPITER;KAABA;KANGAROO;KELVIN SIGN;KEY;KEYBOARD;KEYBOARD AND MOUSE;KEYCAP TEN",
  "KIMONO;KIP SIGN;KISS;KISS MARK;KISSING CAT FACE WITH CLOSED EYES;KISSING FACE",
  "KISSING FACE WITH CLOSED EYES;KISSING FACE WITH SMILING EYES;KIWIFRUIT;KNEELING PERSON;KOALA",
  "L B BAR SYMBOL;LAB COAT;LABEL;LACROSSE STICK AND BALL;LADY BEETLE;LARGE BLUE CIRCLE",
  "LARGE BLUE DIAMOND;LARGE CIRCLE;LARGE ORANGE DIAMOND;LARGE RED CIRCLE;LARI SIGN",
  "LAST QUARTER MOON;LAST QUARTER MOON SYMBOL;LAST QUARTER MOON WITH FACE",
  "LATIN CAPITAL LETTER A;LATIN CAPITAL LETTER A WITH ACUTE;LATIN CAPITAL LETTER A WITH BREVE",
  "LATIN CAPITAL LETTER A WITH CIRCUMFLEX;LATIN CAPITAL LETTER A WITH DIAERESIS",
  "LATIN CAPITAL LETTER A WITH GRAVE;LATIN CAPITAL LETTER A WITH MACRON",
  "LATIN CAPITAL LETTER A WITH OGONEK;LATIN CAPITAL LETTER A WITH RING ABOVE",
  "LATIN CAPITAL LETTER A WITH TILDE;LATIN CAPITAL LETTER AE;LATIN CAPITAL LETTER B",
  "LATIN CAPITAL LETTER C;LATIN CAPITAL LETTER C WITH ACUTE;LATIN CAPITAL LETTER C WITH CARON",
  "LATIN CAPITAL LETTER C WITH CEDILLA;LATIN CAPITAL LETTER C WITH CIRCUMFLEX",
  "LATIN CAPITAL LETTER C WITH DOT ABOVE;LATIN CAPITAL LETTER D",
  "LATIN CAPITAL LETTER D WITH CARON;LATIN CAPITAL LETTER D WITH STROKE;LATIN CAPITAL LETTER E",
  "LATIN CAPITAL LETTER E WITH ACUTE;LATIN CAPITAL LETTER E WITH BREVE",
  "LATIN CAPITAL LETTER E WITH CARON;LATIN CAPITAL LETTER E WITH CIRCUMFLEX",
  "LATIN CAPITAL LETTER E WITH DIAERESIS;LATIN CAPITAL LETTER E WITH DOT ABOVE",
  "LATIN CAPITAL LETTER E WITH GRAVE;LATIN CAPITAL LETTER E WITH MACRON",
  "LATIN CAPITAL LETTER E WITH OGONEK;LATIN CAPITAL LETTER ENG;LATIN CAPITAL LETTER ETH",
  "LATIN CAPITAL LETTER F;LATIN CAPITAL LETTER G;LATIN CAPITAL LETTER G WITH BREVE",
  "LATIN CAPITAL LETTER G WITH CEDILLA;LATIN CAPITAL LETTER G WITH CIRCUMFLEX",
  "LATIN CAPITAL LETTER G WITH DOT ABOVE;LATIN CAPITAL LETTER H",
  "LATIN CAPITAL LETTER H WITH CIRCUMFLEX;LATIN CAPITAL LETTER H WITH STROKE",
  "LATIN CAPITAL LETTER I;LATIN CAPITAL LETTER I WITH ACUTE;LATIN CAPITAL LETTER I WITH BREVE",
  "LATIN CAPITAL LETTER I WITH CIRCUMFLEX;LATIN CAPITAL LETTER I WITH DIAERESIS",
  "LATIN CAPITAL LETTER I WITH DOT ABOVE;LATIN CAPITAL LETTER I WITH GRAVE",
  "LATIN CAPITAL LETTER I WITH MACRON;LATIN CAPITAL LETTER I WITH OGONEK",
  "LATIN CAPITAL LETTER I WITH TILDE;LATIN CAPITAL LETTER J",
  "LATIN CAPITAL LETTER J WITH CIRCUMFLEX;LATIN CAPITAL LETTER K",
  "LATIN CAPITAL LETTER K WITH CEDILLA;LATIN CAPITAL LETTER L;LATIN CAPITAL LETTER L WITH ACUTE",
  "LATIN CAPITAL LETTER L WITH CARON;LATIN CAPITAL LETTER L WITH CEDILLA",
  "LATIN CAPITAL LETTER L WITH MIDDLE DOT;LATIN CAPITAL LETTER L WITH STROKE",
  "LATIN CAPITAL LETTER M;LATIN CAPITAL LETTER N;LATIN CAPITAL LETTER N WITH ACUTE",
  "LATIN CAPITAL LETTER N WITH CARON;LATIN CAPITAL LETTER N WITH CEDILLA",
  "LATIN CAPITAL LETTER N WITH TILDE;LATIN CAPITAL LETTER O;LATIN CAPITAL LETTER O WITH ACUTE",
  "LATIN CAPITAL LETTER O WITH BREVE;LATIN CAPITAL LETTER O WITH CIRCUMFLEX",
  "LATIN CAPITAL LETTER O WITH DIAERESIS;LATIN CAPITAL LETTER O WITH DOUBLE ACUTE",
  "LATIN CAPITAL LETTER O WITH GRAVE;LATIN CAPITAL LETTER O WITH MACRON",
  "LATIN CAPITAL LETTER O WITH STROKE;LATIN CAPITAL LETTER O WITH TILDE;LATIN CAPITAL LETTER P",
  "LATIN CAPITAL LETTER Q;LATIN CAPITAL LETTER R;LATIN CAPITAL LETTER R WITH ACUTE",
  "LATIN CAPITAL LETTER R WITH CARON;LATIN CAPITAL LETTER R WITH CEDILLA;LATIN CAPITAL LETTER S",
  "LATIN CAPITAL LETTER S WITH ACUTE;LATIN CAPITAL LETTER S WITH CARON",
  "LATIN CAPITAL LETTER S WITH CEDILLA;LATIN CAPITAL LETTER S WITH CIRCUMFLEX",
  "LATIN CAPITAL LETTER T;LATIN CAPITAL LETTER T WITH CARON;LATIN CAPITAL LETTER T WITH CEDILLA",
  "LATIN CAPITAL LETTER T WITH STROKE;LATIN CAPITAL LETTER THORN;LATIN CAPITAL LETTER U",
  "LATIN CAPITAL LETTER U WITH ACUTE;LATIN CAPITAL LETTER U WITH BREVE",
  "LATIN CAPITAL LETTER U WITH CIRCUMFLEX;LATIN CAPITAL LETTER U WITH DIAERESIS",
  "LATIN CAPITAL LETTER U WITH DOUBLE ACUTE;LATIN CAPITAL LETTER U WITH GRAVE",
  "LATIN CAPITAL LETTER U WITH MACRON;LATIN CAPITAL LETTER U WITH OGONEK",
  "LATIN CAPITAL LETTER U WITH RING ABOVE;LATIN CAPITAL LETTER U WITH TILDE",
  "LATIN CAPITAL LETTER V;LATIN CAPITAL LETTER W;LATIN CAPITAL LETTER W WITH CIRCUMFLEX",
  "LATIN CAPITAL LETTER X;LATIN CAPITAL LETTER Y;LATIN CAPITAL LETTER Y WITH ACUTE",
  "LATIN CAPITAL LETTER Y WITH CIRCUMFLEX;LATIN CAPITAL LETTER Y WITH DIAERESIS",
  "LATIN CAPITAL LETTER Z;LATIN CAPITAL LETTER Z WITH ACUTE;LATIN CAPITAL LETTER Z WITH CARON",
  "LATIN CAPITAL LETTER Z WITH DOT ABOVE;LATIN CAPITAL LIGATURE IJ;LATIN CAPITAL LIGATURE OE",
  "LATIN CROSS;LATIN SMALL LETTER A;LATIN SMALL LETTER A WITH ACUTE",
  "LATIN SMALL LETTER A WITH BREVE;LATIN SMALL LETTER A WITH CIRCUMFLEX",
  "LATIN SMALL LETTER A WITH DIAERESIS;LATIN SMALL LETTER A WITH GRAVE",
  "LATIN SMALL LETTER A WITH MACRON;LATIN SMALL LETTER A WITH OGONEK",
  "LATIN SMALL LETTER A WITH RING ABOVE;LATIN SMALL LETTER A WITH TILDE;LATIN SMALL LETTER AE",
  "LATIN SMALL LETTER B;LATIN SMALL LETTER C;LATIN SMALL LETTER C WITH ACUTE",
  "LATIN SMALL LETTER C WITH CARON;LATIN SMALL LETTER C WITH CEDILLA",
  "LATIN SMALL LETTER C WITH CIRCUMFLEX;LATIN SMALL LETTER C WITH DOT ABOVE",
  "LATIN SMALL LETTER D;LATIN SMALL LETTER D WITH CARON;LATIN SMALL LETTER D WITH STROKE",
  "LATIN SMALL LETTER DOTLESS I;LATIN SMALL LETTER E;LATIN SMALL LETTER E WITH ACUTE",
  "LATIN SMALL LETTER E WITH BREVE;LATIN SMALL LETTER E WITH CARON",
  "LATIN SMALL LETTER E WITH CIRCUMFLEX;LATIN SMALL LETTER E WITH DIAERESIS",
  "LATIN SMALL LETTER E WITH DOT ABOVE;LATIN SMALL LETTER E WITH GRAVE",
  "LATIN SMALL LETTER E WITH MACRON;LATIN SMALL LETTER E WITH OGONEK;LATIN SMALL LETTER ENG",
  "LATIN SMALL LETTER ETH;LATIN SMALL LETTER F;LATIN SMALL LETTER G",
  "LATIN SMALL LETTER G WITH BREVE;LATIN SMALL LETTER G WITH CEDILLA",
  "LATIN SMALL LETTER G WITH CIRCUMFLEX;LATIN SMALL LETTER G WITH DOT ABOVE",
  "LATIN SMALL LETTER H;LATIN SMALL LETTER H WITH CIRCUMFLEX;LATIN SMALL LETTER H WITH STROKE",
  "LATIN SMALL LETTER I;LATIN SMALL LETTER I WITH ACUTE;LATIN SMALL LETTER I WITH BREVE",
  "LATIN SMALL LETTER I WITH CIRCUMFLEX;LATIN SMALL LETTER I WITH DIAERESIS",
  "LATIN SMALL LETTER I WITH GRAVE;LATIN SMALL LETTER I WITH MACRON",
  "LATIN SMALL LETTER I WITH OGONEK;LATIN SMALL LETTER I WITH TILDE;LATIN SMALL LETTER J",
  "LATIN SMALL LETTER J WITH CIRCUMFLEX;LATIN SMALL LETTER K;LATIN SMALL LETTER K WITH CEDILLA",
  "LATIN SMALL LETTER KRA;LATIN SMALL LETTER L;LATIN SMALL LETTER L WITH ACUTE",
  "LATIN SMALL LETTER L WITH CARON;LATIN SMALL LETTER L WITH CEDILLA",
  "LATIN SMALL LETTER L WITH MIDDLE DOT;LATIN SMALL LETTER L WITH STROKE",
  "LATIN SMALL LETTER LONG S;LATIN SMALL LETTER M;LATIN SMALL LETTER N",
  "LATIN SMALL LETTER N PRECEDED BY APOSTROPHE;LATIN SMALL LETTER N WITH ACUTE",
  "LATIN SMALL LETTER N WITH CARON;LATIN SMALL LETTER N WITH CEDILLA",
  "LATIN SMALL LETTER N WITH TILDE;LATIN SMALL LETTER O;LATIN SMALL LETTER O WITH ACUTE",
  "LATIN SMALL LETTER O WITH BREVE;LATIN SMALL LETTER O WITH CIRCUMFLEX",
  "LATIN SMALL LETTER O WITH DIAERESIS;LATIN SMALL LETTER O WITH DOUBLE ACUTE",
  "LATIN SMALL LETTER O WITH GRAVE;LATIN SMALL LETTER O WITH MACRON",
  "LATIN SMALL LETTER O WITH STROKE;LATIN SMALL LETTER O WITH TILDE;LATIN SMALL LETTER P",
  "LATIN SMALL LETTER Q;LATIN SMALL LETTER R;LATIN SMALL LETTER R WITH ACUTE",
  "LATIN SMALL LETTER R WITH CARON;LATIN SMALL LETTER R WITH CEDILLA",
  "LATIN SMALL LETTER REVERSED C;LATIN SMALL LETTER S;LATIN SMALL LETTER S WITH ACUTE",
  "LATIN SMALL LETTER S WITH CARON;LATIN SMALL LETTER S WITH CEDILLA",
  "LATIN SMALL LETTER S WITH CIRCUMFLEX;LATIN SMALL LETTER SHARP S;LATIN SMALL LETTER T",
  "LATIN SMALL LETTER T WITH CARON;LATIN SMALL LETTER T WITH CEDILLA",
  "LATIN SMALL LETTER T WITH STROKE;LATIN SMALL LETTER THORN;LATIN SMALL LETTER U",
  "LATIN SMALL LETTER U WITH ACUTE;LATIN SMALL LETTER U WITH BREVE",
  "LATIN SMALL LETTER U WITH CIRCUMFLEX;LATIN SMALL LETTER U WITH DIAERESIS",
  "LATIN SMALL LETTER U WITH DOUBLE ACUTE;LATIN SMALL LETTER U WITH GRAVE",
  "LATIN SMALL LETTER U WITH MACRON;LATIN SMALL LETTER U WITH OGONEK",
  "LATIN SMALL LETTER U WITH RING ABOVE;LATIN SMALL LETTER U WITH TILDE;LATIN SMALL LETTER V",
  "LATIN SMALL LETTER W;LATIN SMALL LETTER W WITH CIRCUMFLEX;LATIN SMALL LETTER X",
  "LATIN SMALL LETTER Y;LATIN SMALL LETTER Y WITH ACUTE;LATIN SMALL LETTER Y WITH CIRCUMFLEX",
  "LATIN SMALL LETTER Y WITH DIAERESIS;LATIN SMALL LETTER Z;LATIN SMALL LETTER Z WITH ACUTE",
  "LATIN SMALL LETTER Z WITH CARON;LATIN SMALL LETTER Z WITH DOT ABOVE;LATIN SMALL LIGATURE FF",
  "LATIN SMALL LIGATURE FFI;LATIN SMALL LIGATURE FFL;LATIN SMALL LIGATURE FI",
  "LATIN SMALL LIGATURE FL;LATIN SMALL LIGATURE IJ;LATIN SMALL LIGATURE LONG S T",
  "LATIN SMALL LIGATURE OE;LATIN SMALL LIGATURE ST;LATIN SUBSCRIPT SMALL LETTER A",
  "LATIN SUBSCRIPT SMALL LETTER E;LATIN SUBSCRIPT SMALL LETTER H;LATIN SUBSCRIPT SMALL LETTER K",
  "LATIN SUBSCRIPT SMALL LETTER L;LATIN SUBSCRIPT SMALL LETTER M;LATIN SUBSCRIPT SMALL LETTER N",
  "LATIN SUBSCRIPT SMALL LETTER O;LATIN SUBSCRIPT SMALL LETTER P;LATIN SUBSCRIPT SMALL LETTER S",
  "LATIN SUBSCRIPT SMALL LETTER SCHWA;LATIN SUBSCRIPT SMALL LETTER T",
  "LATIN SUBSCRIPT SMALL LETTER X;LEAF FLUTTERING IN WIND;LEAFY GREEN;LEDGER;LEFT ANGER BUBBLE",
  "LEFT ANGLE BRACKET;LEFT ARROW WITH CIRCLED PLUS;LEFT ARROW WITH SMALL CIRCLE",
  "LEFT BLACK LENTICULAR BRACKET;LEFT CEILING;LEFT CLOSED ENTRY;LEFT CORNER BRACKET",
  "LEFT CURLY BRACKET;LEFT CURLY BRACKET LOWER HOOK;LEFT CURLY BRACKET MIDDLE PIECE",
  "LEFT CURLY BRACKET UPPER HOOK;LEFT DOUBLE ANGLE BRACKET;LEFT DOUBLE QUOTATION MARK",
  "LEFT FIVE EIGHTHS BLOCK;LEFT FLOOR;LEFT HALF BLACK CIRCLE;LEFT HALF BLOCK;LEFT HALF CIRCLE",
  "LEFT HALF CIRCLE WITH DOT;LEFT HALF CIRCLE WITH FOUR DOTS;LEFT HALF CIRCLE WITH THREE DOTS",
  "LEFT HALF CIRCLE WITH TWO DOTS;LEFT HAND TELEPHONE RECEIVER;LEFT LUGGAGE",
  "LEFT NORMAL FACTOR SEMIDIRECT PRODUCT;LEFT ONE EIGHTH BLOCK;LEFT ONE QUARTER BLOCK",
  "LEFT PARENTHESIS;LEFT PARENTHESIS EXTENSION;LEFT PARENTHESIS LOWER HOOK",
  "LEFT PARENTHESIS UPPER HOOK;LEFT RIGHT ARROW;LEFT RIGHT ARROW WITH DOUBLE VERTICAL STROKE",
  "LEFT RIGHT ARROW WITH STROKE;LEFT RIGHT ARROW WITH VERTICAL STROKE;LEFT RIGHT BLACK ARROW",
  "LEFT RIGHT DOUBLE ARROW;LEFT RIGHT DOUBLE ARROW WITH STROKE;LEFT RIGHT OPEN-HEADED ARROW",
  "LEFT RIGHT WAVE ARROW;LEFT RIGHT WHITE ARROW;LEFT SEMIDIRECT PRODUCT",
  "LEFT SEVEN EIGHTHS BLOCK;LEFT SINGLE QUOTATION MARK;LEFT SPEECH BUBBLE;LEFT SQUARE BRACKET",
  "LEFT SQUARE BRACKET EXTENSION;LEFT SQUARE BRACKET LOWER CORNER",
  "LEFT SQUARE BRACKET UPPER CORNER;LEFT SQUARE BRACKET WITH QUILL;LEFT TACK",
  "LEFT THOUGHT BUBBLE;LEFT THREE EIGHTHS BLOCK;LEFT THREE QUARTERS BLOCK",
  "LEFT TORTOISE SHELL BRACKET;LEFT VERTICAL BOX LINE;LEFT WHITE CORNER BRACKET",
  "LEFT WHITE LENTICULAR BRACKET;LEFT WHITE SQUARE BRACKET;LEFT WHITE TORTOISE SHELL BRACKET",
  "LEFT WRITING HAND;LEFT-FACING FIST;LEFT-HANDED INTERLACED PENTAGRAM",
  "LEFT-POINTING ANGLE BRACKET;LEFT-POINTING DOUBLE ANGLE QUOTATION MARK",
  "LEFT-POINTING MAGNIFYING GLASS;LEFT-SHADED WHITE RIGHTWARDS ARROW;LEFT-TO-RIGHT EMBEDDING",
  "LEFT-TO-RIGHT MARK;LEFT-TO-RIGHT OVERRIDE;LEFTWARDS ARROW",
  "LEFTWARDS ARROW ABOVE ALMOST EQUAL TO;LEFTWARDS ARROW ABOVE REVERSE ALMOST EQUAL TO",
  "LEFTWARDS ARROW ABOVE REVERSE TILDE OPERATOR;LEFTWARDS ARROW FROM BAR",
  "LEFTWARDS ARROW OVER RIGHTWARDS ARROW;LEFTWARDS ARROW THROUGH X;LEFTWARDS ARROW TO BAR",
  "LEFTWARDS ARROW TO BAR OVER RIGHTWARDS ARROW TO BAR;LEFTWARDS ARROW WITH DOTTED STEM",
  "LEFTWARDS ARROW WITH DOUBLE VERTICAL STROKE;LEFTWARDS ARROW WITH HOOK",
  "LEFTWARDS ARROW WITH LOOP;LEFTWARDS ARROW WITH STROKE;LEFTWARDS ARROW WITH TAIL",
  "LEFTWARDS ARROW WITH TAIL WITH DOUBLE VERTICAL STROKE",
  "LEFTWARDS ARROW WITH TAIL WITH VERTICAL STROKE;LEFTWARDS ARROW WITH TIP DOWNWARDS",
  "LEFTWARDS ARROW WITH TIP UPWARDS;LEFTWARDS ARROW WITH VERTICAL STROKE;LEFTWARDS BLACK ARROW",
  "LEFTWARDS DASHED ARROW;LEFTWARDS DOUBLE ARROW;LEFTWARDS DOUBLE ARROW WITH STROKE",
  "LEFTWARDS HARPOON OVER RIGHTWARDS HARPOON;LEFTWARDS HARPOON WITH BARB DOWNWARDS",
  "LEFTWARDS HARPOON WITH BARB UPWARDS;LEFTWARDS OPEN-HEADED ARROW;LEFTWARDS PAIRED ARROWS",
  "LEFTWARDS QUADRUPLE ARROW;LEFTWARDS SQUIGGLE ARROW;LEFTWARDS TRIPLE ARROW",
  "LEFTWARDS TWO HEADED ARROW;LEFTWARDS TWO-HEADED ARROW FROM BAR",
  "LEFTWARDS TWO-HEADED ARROW WITH DOUBLE VERTICAL STROKE;LEFTWARDS TWO-HEADED ARROW WITH TAIL",
  "LEFTWARDS TWO-HEADED ARROW WITH TAIL WITH DOUBLE VERTICAL STROKE",
  "LEFTWARDS TWO-HEADED ARROW WITH TAIL WITH VERTICAL STROKE",
  "LEFTWARDS TWO-HEADED ARROW WITH VERTICAL STROKE;LEFTWARDS TWO-HEADED TRIPLE DASH ARROW",
  "LEFTWARDS WAVE ARROW;LEFTWARDS WHITE ARROW;LEG;LEMON;LEO;LEOPARD;LESS-THAN BUT NOT EQUAL TO",
  "LESS-THAN BUT NOT EQUIVALENT TO;LESS-THAN EQUAL TO OR GREATER-THAN;LESS-THAN OR EQUAL TO",
  "LESS-THAN OR EQUIVALENT TO;LESS-THAN OR GREATER-THAN;LESS-THAN OVER EQUAL TO;LESS-THAN SIGN",
  "LESS-THAN WITH DOT;LEVEL SLIDER;LF;LIBRA;LIGHT CHECK MARK",
  "LIGHT LEFT TORTOISE SHELL BRACKET ORNAMENT;LIGHT RAIL",
  "LIGHT RIGHT TORTOISE SHELL BRACKET ORNAMENT;LIGHT SHADE;LIGHT VERTICAL BAR;LIGHTNING",
  "LIGHTNING MOOD;LIGHTNING MOOD BUBBLE;LINE FEED;LINE SEPARATOR;LINE TABULATION;LINK SYMBOL",
  "LINKED PAPERCLIPS;LION FACE;LIPS;LIPSTICK;LIRA SIGN;LIVRE TOURNOIS SIGN;LIZARD;LLAMA;LOBSTER",
  "LOCK;LOCK WITH INK PEN;LOGICAL AND;LOGICAL OR;LOLLIPOP;LONG LEFTWARDS SQUIGGLE ARROW",
  "LOTION BOTTLE;LOUDLY CRYING FACE;LOVE HOTEL;LOVE LETTER;LOW ASTERISK;LOW BRIGHTNESS SYMBOL",
  "LOW DOUBLE PRIME QUOTATION MARK;LOW LINE;LOWER BLADE SCISSORS;LOWER FIVE EIGHTHS BLOCK",
  "LOWER HALF BLOCK;LOWER HALF CIRCLE;LOWER HALF INVERSE WHITE CIRCLE;LOWER LEFT BALLPOINT PEN",
  "LOWER LEFT CRAYON;LOWER LEFT FOUNTAIN PEN;LOWER LEFT PAINTBRUSH;LOWER LEFT PENCIL",
  "LOWER LEFT QUADRANT CIRCULAR ARC;LOWER LEFT TRIANGLE;LOWER ONE EIGHTH BLOCK",
  "LOWER ONE QUARTER BLOCK;LOWER RIGHT DROP-SHADOWED WHITE SQUARE;LOWER RIGHT PENCIL",
  "LOWER RIGHT QUADRANT CIRCULAR ARC;LOWER RIGHT SHADOWED WHITE CIRCLE",
  "LOWER RIGHT SHADOWED WHITE SQUARE;LOWER RIGHT TRIANGLE;LOWER SEVEN EIGHTHS BLOCK",
  "LOWER THREE EIGHTHS BLOCK;LOWER THREE QUARTERS BLOCK;LOZENGE;LRM;LUGGAGE;LYING FACE;MACRON",
  "MAGE;MAGNET;MALE AND FEMALE SIGN;MALE SIGN;MALE WITH STROKE AND MALE AND FEMALE SIGN",
  "MALE WITH STROKE SIGN;MALTESE CROSS;MAMMOTH;MAN;MAN AND WOMAN HOLDING HANDS;MAN DANCING",
  "MAN IN BUSINESS SUIT LEVITATING;MAN IN TUXEDO;MAN WITH GUA PI MAO;MAN WITH TURBAN;MANAT SIGN",
  "MANGO;MANS SHOE;MANTELPIECE CLOCK;MANUAL WHEELCHAIR;MAP SYMBOL FOR LIGHTHOUSE;MAPLE LEAF",
  "MARRIAGE SYMBOL;MARTIAL ARTS UNIFORM;MASCULINE ORDINAL INDICATOR;MATE DRINK",
  "MATHEMATICAL LEFT ANGLE BRACKET;MATHEMATICAL LEFT DOUBLE ANGLE BRACKET",
  "MATHEMATICAL LEFT FLATTENED PARENTHESIS;MATHEMATICAL LEFT WHITE SQUARE BRACKET",
  "MATHEMATICAL LEFT WHITE TORTOISE SHELL BRACKET;MATHEMATICAL RIGHT ANGLE BRACKET",
  "MATHEMATICAL RIGHT DOUBLE ANGLE BRACKET;MATHEMATICAL RIGHT FLATTENED PARENTHESIS",
  "MATHEMATICAL RIGHT WHITE SQUARE BRACKET;MATHEMATICAL RIGHT WHITE TORTOISE SHELL BRACKET",
  "MAXIMIZE;MEASURED ANGLE;MEASURED BY;MEAT ON BONE;MECHANICAL ARM;MECHANICAL LEG",
  "MEDIUM BLACK CIRCLE;MEDIUM FLATTENED LEFT PARENTHESIS ORNAMENT",
  "MEDIUM FLATTENED RIGHT PARENTHESIS ORNAMENT;MEDIUM LEFT CURLY BRACKET ORNAMENT",
  "MEDIUM LEFT PARENTHESIS ORNAMENT;MEDIUM LEFT-POINTING ANGLE BRACKET ORNAMENT",
  "MEDIUM MATHEMATICAL SPACE;MEDIUM RIGHT CURLY BRACKET ORNAMENT",
  "MEDIUM RIGHT PARENTHESIS ORNAMENT;MEDIUM RIGHT-POINTING ANGLE BRACKET ORNAMENT;MEDIUM SHADE",
  "MEDIUM SMALL WHITE CIRCLE;MEDIUM VERTICAL BAR;MEDIUM WHITE CIRCLE;MELON;MEMO",
  "MENORAH WITH NINE BRANCHES;MENS SYMBOL;MERCURY;MERPERSON;METRICAL BREVE",
  "METRICAL LONG OVER SHORT;METRICAL LONG OVER TWO SHORTS;METRICAL PENTASEME",
  "METRICAL SHORT OVER LONG;METRICAL TETRASEME;METRICAL TRISEME;METRICAL TWO SHORTS JOINED",
  "METRICAL TWO SHORTS OVER LONG;METRO;MICRO SIGN;MICROBE;MICROPHONE;MICROSCOPE;MIDDLE DOT",
  "MIDLINE HORIZONTAL ELLIPSIS;MILITARY MEDAL;MILKY WAY;MILL SIGN;MINIBUS;MINIDISC;MINIMIZE",
  "MINUS SIGN;MINUS TILDE;MINUS-OR-PLUS SIGN;MOBILE PHONE;MOBILE PHONE OFF",
  "MOBILE PHONE WITH RIGHTWARDS ARROW AT LEFT;MODELS;MODERN PENTATHLON",
  "MODIFIER LETTER ACUTE ACCENT;MODIFIER LETTER CENTRED LEFT HALF RING",
  "MODIFIER LETTER CENTRED RIGHT HALF RING;MODIFIER LETTER CIRCUMFLEX ACCENT",
  "MODIFIER LETTER DOWN TACK;MODIFIER LETTER GRAVE ACCENT;MODIFIER LETTER HALF TRIANGULAR COLON",
  "MODIFIER LETTER LOW ACUTE ACCENT;MODIFIER LETTER LOW GRAVE ACCENT;MODIFIER LETTER LOW MACRON",
  "MODIFIER LETTER LOW VERTICAL LINE;MODIFIER LETTER MACRON;MODIFIER LETTER MINUS SIGN",
  "MODIFIER LETTER PLUS SIGN;MODIFIER LETTER TRIANGULAR COLON;MODIFIER LETTER UP TACK",
  "MODIFIER LETTER VERTICAL LINE;MONEY BAG;MONEY WITH WINGS;MONEY-MOUTH FACE;MONKEY;MONKEY FACE",
  "MONOGRAM FOR YANG;MONOGRAM FOR YIN;MONORAIL;MONOSTABLE SYMBOL;MOOD BUBBLE;MOON CAKE",
  "MOON VIEWING CEREMONY;MOSQUE;MOSQUITO;MOTHER CHRISTMAS;MOTOR BOAT;MOTOR SCOOTER",
  "MOTORIZED WHEELCHAIR;MOTORWAY;MOUNT FUJI;MOUNTAIN;MOUNTAIN BICYCLIST;MOUNTAIN CABLEWAY",
  "MOUNTAIN RAILWAY;MOUSE;MOUSE FACE;MOUTH;MOVIE CAMERA;MOYAI;MUCH GREATER-THAN;MUCH LESS-THAN",
  "MULTIMAP;MULTIPLE MUSICAL NOTES;MULTIPLICATION SIGN;MULTIPLICATION X;MULTISET",
  "MULTISET MULTIPLICATION;MULTISET UNION;MUSHROOM;MUSIC FLAT SIGN;MUSIC NATURAL SIGN",
  "MUSIC SHARP SIGN;MUSICAL KEYBOARD;MUSICAL KEYBOARD WITH JACKS;MUSICAL NOTE;MUSICAL SCORE",
  "N-ARY COPRODUCT;N-ARY INTERSECTION;N-ARY LOGICAL AND;N-ARY LOGICAL OR;N-ARY PRODUCT",
  "N-ARY SUMMATION;N-ARY UNION;NABLA;NAIL POLISH;NAIRA SIGN;NAME BADGE;NAND",
  "NARROW NO-BREAK SPACE;NATIONAL PARK;NAUSEATED FACE;NAZAR AMULET;NBSP;NECKTIE",
  "NEGATED DOUBLE VERTICAL BAR DOUBLE RIGHT TURNSTILE;NEGATIVE CIRCLED DIGIT ZERO",
  "NEGATIVE CIRCLED NUMBER EIGHTEEN;NEGATIVE CIRCLED NUMBER ELEVEN",
  "NEGATIVE CIRCLED NUMBER FIFTEEN;NEGATIVE CIRCLED NUMBER FOURTEEN",
  "NEGATIVE CIRCLED NUMBER NINETEEN;NEGATIVE CIRCLED NUMBER SEVENTEEN",
  "NEGATIVE CIRCLED NUMBER SIXTEEN;NEGATIVE CIRCLED NUMBER THIRTEEN",
  "NEGATIVE CIRCLED NUMBER TWELVE;NEGATIVE CIRCLED NUMBER TWENTY;NEGATIVE SQUARED CROSS MARK",
  "NEITHER A SUBSET OF NOR EQUAL TO;NEITHER A SUPERSET OF NOR EQUAL TO",
  "NEITHER APPROXIMATELY NOR ACTUALLY EQUAL TO;NEITHER GREATER-THAN NOR EQUAL TO",
  "NEITHER GREATER-THAN NOR EQUIVALENT TO;NEITHER GREATER-THAN NOR LESS-THAN",
  "NEITHER LESS-THAN NOR EQUAL TO;NEITHER LESS-THAN NOR EQUIVALENT TO",
  "NEITHER LESS-THAN NOR GREATER-THAN;NEL;NEPTUNE;NERD FACE;NEUTER;NEUTRAL FACE;NEW LINE",
  "NEW MOON SYMBOL;NEW MOON WITH FACE;NEW SHEQEL SIGN;NEWSPAPER;NEXT LINE;NEXT PAGE",
  "NIGHT WITH STARS;NINJA;NL;NO BICYCLES;NO ENTRY;NO ENTRY SIGN;NO MOBILE PHONES",
  "NO ONE UNDER EIGHTEEN SYMBOL;NO PEDESTRIANS;NO PIRACY;NO SMOKING SYMBOL;NO-BREAK SPACE",
  "NON-BREAKING HYPHEN;NON-POTABLE WATER SYMBOL;NOR;NORDIC MARK SIGN;NORMAL SUBGROUP OF",
  "NORMAL SUBGROUP OF OR EQUAL TO;NORTH EAST ARROW;NORTH EAST BLACK ARROW",
  "NORTH EAST DOUBLE ARROW;NORTH EAST WHITE ARROW;NORTH WEST ARROW;NORTH WEST ARROW TO CORNER",
  "NORTH WEST ARROW TO LONG BAR;NORTH WEST BLACK ARROW;NORTH WEST DOUBLE ARROW",
  "NORTH WEST WHITE ARROW;NORTHEAST-POINTING AIRPLANE;NOSE;NOT A SUBSET OF;NOT A SUPERSET OF",
  "NOT ALMOST EQUAL TO;NOT AN ELEMENT OF;NOT ASYMPTOTICALLY EQUAL TO;NOT CHECK MARK",
  "NOT EQUAL TO;NOT EQUIVALENT TO;NOT GREATER-THAN;NOT IDENTICAL TO;NOT LESS-THAN",
  "NOT NORMAL SUBGROUP OF;NOT NORMAL SUBGROUP OF OR EQUAL TO;NOT PARALLEL TO;NOT SIGN",
  "NOT SQUARE IMAGE OF OR EQUAL TO;NOT SQUARE ORIGINAL OF OR EQUAL TO;NOT TILDE;NOT TRUE",
  "NOTCHED LEFT SEMICIRCLE WITH THREE DOTS;NOTCHED LOWER RIGHT-SHADOWED WHITE RIGHTWARDS ARROW",
  "NOTCHED RIGHT SEMICIRCLE WITH THREE DOTS;NOTCHED UPPER RIGHT-SHADOWED WHITE RIGHTWARDS ARROW",
  "NOTE;NOTE PAD;NOTE PAGE;NOTEBOOK;NOTEBOOK WITH DECORATIVE COVER;NUL;NULL",
  "NUMBER EIGHTEEN FULL STOP;NUMBER ELEVEN FULL STOP;NUMBER FIFTEEN FULL STOP",
  "NUMBER FOURTEEN FULL STOP;NUMBER NINETEEN FULL STOP;NUMBER SEVENTEEN FULL STOP;NUMBER SIGN",
  "NUMBER SIXTEEN FULL STOP;NUMBER TEN FULL STOP;NUMBER THIRTEEN FULL STOP",
  "NUMBER TWELVE FULL STOP;NUMBER TWENTY FULL STOP;NUMERO SIGN;NUT AND BOLT",
  "OBJECT REPLACEMENT CHARACTER;OBSERVER EYE SYMBOL;OCTAGONAL SIGN;OCTOPUS;ODEN;OFFICE BUILDING",
  "OGONEK;OHM SIGN;OIL DRUM;OK HAND SIGN;OLD KEY;OLD PERSONAL COMPUTER;OLDER ADULT;OLDER MAN",
  "OLDER WOMAN;OM SYMBOL;ON WITH EXCLAMATION MARK WITH LEFT RIGHT ARROW ABOVE",
  "ONCOMING AUTOMOBILE;ONCOMING BUS;ONCOMING FIRE ENGINE;ONCOMING POLICE CAR;ONCOMING TAXI",
  "ONE BUTTON MOUSE;ONE DOT LEADER;ONION;OPEN BOOK;OPEN CENTRE ASTERISK;OPEN CENTRE BLACK STAR",
  "OPEN CENTRE CROSS;OPEN CENTRE TEARDROP-SPOKED ASTERISK;OPEN FILE FOLDER;OPEN FOLDER",
  "OPEN HANDS SIGN;OPEN LOCK;OPEN MAILBOX WITH LOWERED FLAG;OPEN MAILBOX WITH RAISED FLAG",
  "OPEN-CIRCUIT-OUTPUT H-TYPE SYMBOL;OPEN-CIRCUIT-OUTPUT L-TYPE SYMBOL",
  "OPEN-OUTLINED RIGHTWARDS ARROW;OPHIUCHUS;OPPOSITION;OPTICAL DISC;OPTICAL DISC ICON",
  "OPTION KEY;ORANGE BOOK;ORANGE HEART;ORANGUTAN;ORIGINAL OF;ORTHODOX CROSS;OTTER;OUNCE SIGN",
  "OUTBOX TRAY;OUTLINED BLACK STAR;OUTLINED GREEK CROSS;OUTLINED LATIN CROSS",
  "OUTLINED WHITE STAR;OVERHEATED FACE;OVERLAP;OVERLINE;OWL;OX;OYSTER;PACKAGE;PAGE",
  "PAGE FACING UP;PAGE WITH CIRCLED TEXT;PAGE WITH CURL;PAGER;PAGES;PAGODA;PALLAS;PALM TREE",
  "PALMS UP TOGETHER;PANCAKES;PANDA FACE;PAPERCLIP;PARAGRAPH SEPARATOR;PARALLEL TO",
  "PARENTHESIZED DIGIT EIGHT;PARENTHESIZED DIGIT FIVE;PARENTHESIZED DIGIT FOUR",
  "PARENTHESIZED DIGIT NINE;PARENTHESIZED DIGIT ONE;PARENTHESIZED DIGIT SEVEN",
  "PARENTHESIZED DIGIT SIX;PARENTHESIZED DIGIT THREE;PARENTHESIZED DIGIT TWO",
  "PARENTHESIZED LATIN SMALL LETTER A;PARENTHESIZED LATIN SMALL LETTER B",
  "PARENTHESIZED LATIN SMALL LETTER C;PARENTHESIZED LATIN SMALL LETTER D",
  "PARENTHESIZED LATIN SMALL LETTER E;PARENTHESIZED LATIN SMALL LETTER F",
  "PARENTHESIZED LATIN SMALL LETTER G;PARENTHESIZED LATIN SMALL LETTER H",
  "PARENTHESIZED LATIN SMALL LETTER I;PARENTHESIZED LATIN SMALL LETTER J",
  "PARENTHESIZED LATIN SMALL LETTER K;PARENTHESIZED LATIN SMALL LETTER L",
  "PARENTHESIZED LATIN SMALL LETTER M;PARENTHESIZED LATIN SMALL LETTER N",
  "PARENTHESIZED LATIN SMALL LETTER O;PARENTHESIZED LATIN SMALL LETTER P",
  "PARENTHESIZED LATIN SMALL LETTER Q;PARENTHESIZED LATIN SMALL LETTER R",
  "PARENTHESIZED LATIN SMALL LETTER S;PARENTHESIZED LATIN SMALL LETTER T",
  "PARENTHESIZED LATIN SMALL LETTER U;PARENTHESIZED LATIN SMALL LETTER V",
  "PARENTHESIZED LATIN SMALL LETTER W;PARENTHESIZED LATIN SMALL LETTER X",
  "PARENTHESIZED LATIN SMALL LETTER Y;PARENTHESIZED LATIN SMALL LETTER Z",
  "PARENTHESIZED NUMBER EIGHTEEN;PARENTHESIZED NUMBER ELEVEN;PARENTHESIZED NUMBER FIFTEEN",
  "PARENTHESIZED NUMBER FOURTEEN;PARENTHESIZED NUMBER NINETEEN;PARENTHESIZED NUMBER SEVENTEEN",
  "PARENTHESIZED NUMBER SIXTEEN;PARENTHESIZED NUMBER TEN;PARENTHESIZED NUMBER THIRTEEN",
  "PARENTHESIZED NUMBER TWELVE;PARENTHESIZED NUMBER TWENTY;PARROT;PARTIAL DIFFERENTIAL",
  "PARTIALLY-RECYCLED PAPER SYMBOL;PARTY POPPER;PASSENGER SHIP;PASSIVE-PULL-DOWN-OUTPUT SYMBOL",
  "PASSIVE-PULL-UP-OUTPUT SYMBOL;PASSPORT CONTROL;PAW PRINTS;PEACE SYMBOL;PEACH;PEACOCK;PEANUTS",
  "PEAR;PEDESTRIAN;PEN OVER STAMPED ENVELOPE;PENCIL;PENGUIN;PENSIVE FACE;PENTAGRAM",
  "PER MILLE SIGN;PER SIGN;PER TEN THOUSAND SIGN;PERCENT SIGN;PERFORMING ARTS",
  "PERMANENT PAPER SIGN;PERSEVERING FACE;PERSON BOWING DEEPLY;PERSON CLIMBING",
  "PERSON DOING CARTWHEEL;PERSON FROWNING;PERSON IN LOTUS POSITION;PERSON IN STEAMY ROOM",
  "PERSON RAISING BOTH HANDS IN CELEBRATION;PERSON WITH BALL;PERSON WITH BLOND HAIR",
  "PERSON WITH FOLDED HANDS;PERSON WITH HEADSCARF;PERSON WITH POUTING FACE;PERSONAL COMPUTER",
  "PERSPECTIVE;PESETA SIGN;PESO SIGN;PETRI DISH;PICK;PICKUP TRUCK;PIE;PIG;PIG FACE;PIG NOSE",
  "PILCROW SIGN;PILE OF POO;PILL;PINCHED FINGERS;PINCHING HAND;PINE DECORATION;PINEAPPLE",
  "PINWHEEL STAR;PISCES;PISTOL;PITCHFORK;PLACE OF INTEREST SIGN;PLACE OF WORSHIP",
  "PLANCK CONSTANT;PLANCK CONSTANT OVER TWO PI;PLAYGROUND SLIDE;PLUS SIGN;PLUS-MINUS SIGN;PLUTO",
  "POCKET CALCULATOR;POLICE CAR;POLICE CARS REVOLVING LIGHT;POLICE OFFICER;POODLE",
  "POP DIRECTIONAL FORMATTING;POPCORN;PORTABLE STEREO;POSITION INDICATOR;POSTAL HORN",
  "POSTAL MARK;POSTAL MARK FACE;POSTBOX;POT OF FOOD;POTABLE WATER SYMBOL;POTATO;POUCH",
  "POULTRY LEG;POUND SIGN;POUTING CAT FACE;POUTING FACE;POWER ON SYMBOL;POWER ON-OFF SYMBOL",
  "POWER SLEEP SYMBOL;POWER SYMBOL;PRAYER BEADS;PRECEDES;PRECEDES BUT NOT EQUIVALENT TO",
  "PRECEDES OR EQUAL TO;PRECEDES OR EQUIVALENT TO;PRECEDES UNDER RELATION;PREGNANT WOMAN",
  "PRESCRIPTION TAKE;PRETZEL;PREVIOUS PAGE;PRIME;PRINCE;PRINCESS;PRINT SCREEN SYMBOL;PRINTER",
  "PRINTER ICON;PROBING CANE;PROHIBITED SIGN;PROJECTIVE;PROPERTY LINE;PROPORTION",
  "PROPORTIONAL TO;PUBLIC ADDRESS LOUDSPEAKER;PUNCTUATION SPACE;PURPLE HEART;PURSE;PUSHPIN",
  "PUT LITTER IN ITS PLACE SYMBOL;QUADRANT LOWER LEFT;QUADRANT LOWER RIGHT;QUADRANT UPPER LEFT",
  "QUADRANT UPPER LEFT AND LOWER LEFT AND LOWER RIGHT;QUADRANT UPPER LEFT AND LOWER RIGHT",
  "QUADRANT UPPER LEFT AND UPPER RIGHT AND LOWER LEFT",
  "QUADRANT UPPER LEFT AND UPPER RIGHT AND LOWER RIGHT;QUADRANT UPPER RIGHT",
  "QUADRANT UPPER RIGHT AND LOWER LEFT;QUADRANT UPPER RIGHT AND LOWER LEFT AND LOWER RIGHT",
  "QUADRUPLE PRIME;QUARTER NOTE;QUESTION EXCLAMATION MARK;QUESTION MARK;QUESTIONED EQUAL TO",
  "QUINCUNX;QUOTATION MARK;RABBIT;RABBIT FACE;RACCOON;RACING CAR;RACING MOTORCYCLE",
  "RADICAL SYMBOL BOTTOM;RADIO;RADIO BUTTON;RADIOACTIVE SIGN;RAILWAY CAR;RAILWAY TRACK;RAIN",
  "RAINBOW;RAISED BACK OF HAND;RAISED FIST;RAISED HAND;RAISED HAND WITH FINGERS SPLAYED",
  "RAISED HAND WITH PART BETWEEN MIDDLE AND RING FINGERS;RAM;RAT;RATIO;RECEIPT",
  "RECREATIONAL VEHICLE;RECYCLED PAPER SYMBOL;RECYCLING SYMBOL FOR GENERIC MATERIALS",
  "RECYCLING SYMBOL FOR TYPE-1 PLASTICS;RECYCLING SYMBOL FOR TYPE-2 PLASTICS",
  "RECYCLING SYMBOL FOR TYPE-3 PLASTICS;RECYCLING SYMBOL FOR TYPE-4 PLASTICS",
  "RECYCLING SYMBOL FOR TYPE-5 PLASTICS;RECYCLING SYMBOL FOR TYPE-6 PLASTICS",
  "RECYCLING SYMBOL FOR TYPE-7 PLASTICS;RED APPLE;RED GIFT ENVELOPE;REFERENCE MARK",
  "REGISTERED SIGN;RELIEVED FACE;REMINDER RIBBON;REPLACEMENT CHARACTER;RESPONSE",
  "RESTRICTED LEFT ENTRY-1;RESTRICTED LEFT ENTRY-2;RESTROOM;RETURN SYMBOL;REVERSE SOLIDUS",
  "REVERSE TILDE OPERATOR ABOVE LEFTWARDS ARROW;REVERSE TILDE OPERATOR ABOVE RIGHTWARDS ARROW",
  "REVERSED DOUBLE PRIME;REVERSED DOUBLE PRIME QUOTATION MARK",
  "REVERSED HAND WITH MIDDLE FINGER EXTENDED;REVERSED NOT SIGN;REVERSED PILCROW SIGN",
  "REVERSED PRIME;REVERSED RAISED HAND WITH FINGERS SPLAYED",
  "REVERSED ROTATED FLORAL HEART BULLET;REVERSED SANS-SERIF CAPITAL L;REVERSED SEMICOLON",
  "REVERSED THUMBS DOWN SIGN;REVERSED THUMBS UP SIGN;REVERSED TILDE;REVERSED TILDE EQUALS",
  "REVERSED TRIPLE PRIME;REVERSED VICTORY HAND;REVOLVING HEARTS;RHINOCEROS;RIBBON;RICE BALL",
  "RICE CRACKER;RIFLE;RIGHT ANGER BUBBLE;RIGHT ANGLE;RIGHT ANGLE BRACKET;RIGHT ANGLE WITH ARC",
  "RIGHT ANGLE WITH DOWNWARDS ZIGZAG ARROW;RIGHT ARROW WITH SMALL CIRCLE",
  "RIGHT BLACK LENTICULAR BRACKET;RIGHT CEILING;RIGHT CORNER BRACKET;RIGHT CURLY BRACKET",
  "RIGHT CURLY BRACKET LOWER HOOK;RIGHT CURLY BRACKET MIDDLE PIECE",
  "RIGHT CURLY BRACKET UPPER HOOK;RIGHT DOUBLE ANGLE BRACKET;RIGHT DOUBLE QUOTATION MARK",
  "RIGHT FLOOR;RIGHT HALF BLACK CIRCLE;RIGHT HALF BLOCK;RIGHT HAND TELEPHONE RECEIVER",
  "RIGHT NORMAL FACTOR SEMIDIRECT PRODUCT;RIGHT ONE EIGHTH BLOCK;RIGHT PARENTHESIS",
  "RIGHT PARENTHESIS EXTENSION;RIGHT PARENTHESIS LOWER HOOK;RIGHT PARENTHESIS UPPER HOOK",
  "RIGHT SEMIDIRECT PRODUCT;RIGHT SINGLE QUOTATION MARK;RIGHT SPEAKER",
  "RIGHT SPEAKER WITH ONE SOUND WAVE;RIGHT SPEAKER WITH THREE SOUND WAVES;RIGHT SPEECH BUBBLE",
  "RIGHT SQUARE BRACKET;RIGHT SQUARE BRACKET EXTENSION;RIGHT SQUARE BRACKET LOWER CORNER",
  "RIGHT SQUARE BRACKET UPPER CORNER;RIGHT SQUARE BRACKET WITH QUILL;RIGHT TACK",
  "RIGHT THOUGHT BUBBLE;RIGHT TORTOISE SHELL BRACKET;RIGHT TRIANGLE;RIGHT VERTICAL BOX LINE",
  "RIGHT WHITE CORNER BRACKET;RIGHT WHITE LENTICULAR BRACKET;RIGHT WHITE SQUARE BRACKET",
  "RIGHT WHITE TORTOISE SHELL BRACKET;RIGHT-FACING FIST;RIGHT-HANDED INTERLACED PENTAGRAM",
  "RIGHT-POINTING ANGLE BRACKET;RIGHT-POINTING DOUBLE ANGLE QUOTATION MARK",
  "RIGHT-POINTING MAGNIFYING GLASS;RIGHT-SHADED WHITE RIGHTWARDS ARROW;RIGHT-TO-LEFT EMBEDDING",
  "RIGHT-TO-LEFT MARK;RIGHT-TO-LEFT OVERRIDE;RIGHTWARDS ARROW",
  "RIGHTWARDS ARROW ABOVE REVERSE ALMOST EQUAL TO;RIGHTWARDS ARROW ABOVE REVERSE TILDE OPERATOR",
  "RIGHTWARDS ARROW FROM BAR;RIGHTWARDS ARROW OVER LEFTWARDS ARROW",
  "RIGHTWARDS ARROW THROUGH GREATER-THAN;RIGHTWARDS ARROW THROUGH SUPERSET",
  "RIGHTWARDS ARROW TO BAR;RIGHTWARDS ARROW WITH CORNER DOWNWARDS",
  "RIGHTWARDS ARROW WITH DOUBLE VERTICAL STROKE;RIGHTWARDS ARROW WITH HOOK",
  "RIGHTWARDS ARROW WITH LOOP;RIGHTWARDS ARROW WITH STROKE;RIGHTWARDS ARROW WITH TAIL",
  "RIGHTWARDS ARROW WITH TIP DOWNWARDS;RIGHTWARDS ARROW WITH TIP UPWARDS",
  "RIGHTWARDS ARROW WITH VERTICAL STROKE;RIGHTWARDS DASHED ARROW;RIGHTWARDS DOUBLE ARROW",
  "RIGHTWARDS DOUBLE ARROW WITH STROKE;RIGHTWARDS HARPOON OVER LEFTWARDS HARPOON",
  "RIGHTWARDS HARPOON WITH BARB DOWNWARDS;RIGHTWARDS HARPOON WITH BARB UPWARDS",
  "RIGHTWARDS OPEN-HEADED ARROW;RIGHTWARDS PAIRED ARROWS;RIGHTWARDS QUADRUPLE ARROW",
  "RIGHTWARDS SQUIGGLE ARROW;RIGHTWARDS TRIPLE ARROW;RIGHTWARDS TWO HEADED ARROW",
  "RIGHTWARDS WAVE ARROW;RIGHTWARDS WHITE ARROW;RIGHTWARDS WHITE ARROW FROM WALL;RING",
  "RING ABOVE;RING BUOY;RING EQUAL TO;RING IN EQUAL TO;RING OPERATOR;RINGING BELL;RLM",
  "ROASTED SWEET POTATO;ROBOT FACE;ROCKET;ROLL OF PAPER;ROLLED-UP NEWSPAPER;ROLLER COASTER",
  "ROLLER SKATE;ROLLING ON THE FLOOR LAUGHING;ROMAN NUMERAL EIGHT;ROMAN NUMERAL ELEVEN",
  "ROMAN NUMERAL FIFTY;ROMAN NUMERAL FIFTY EARLY FORM;ROMAN NUMERAL FIFTY THOUSAND",
  "ROMAN NUMERAL FIVE;ROMAN NUMERAL FIVE HUNDRED;ROMAN NUMERAL FIVE THOUSAND;ROMAN NUMERAL FOUR",
  "ROMAN NUMERAL NINE;ROMAN NUMERAL ONE;ROMAN NUMERAL ONE HUNDRED",
  "ROMAN NUMERAL ONE HUNDRED THOUSAND;ROMAN NUMERAL ONE THOUSAND;ROMAN NUMERAL ONE THOUSAND C D",
  "ROMAN NUMERAL REVERSED ONE HUNDRED;ROMAN NUMERAL SEVEN;ROMAN NUMERAL SIX",
  "ROMAN NUMERAL SIX LATE FORM;ROMAN NUMERAL TEN;ROMAN NUMERAL TEN THOUSAND;ROMAN NUMERAL THREE",
  "ROMAN NUMERAL TWELVE;ROMAN NUMERAL TWO;ROOSTER;ROSE;ROSETTE;ROTATED CAPITAL Q",
  "ROTATED FLORAL HEART BULLET;ROTATED HEAVY BLACK HEART BULLET;ROUND PUSHPIN;ROWBOAT",
  "RUBLE SIGN;RUGBY FOOTBALL;RUNNER;RUNNING SHIRT WITH SASH;RUPEE SIGN;SAFETY PIN;SAFETY VEST",
  "SAGITTARIUS;SAILBOAT;SAKE BOTTLE AND CUP;SALT SHAKER;SALTIRE;SANDWICH;SARI;SATELLITE",
  "SATELLITE ANTENNA;SATURN;SAUROPOD;SAXOPHONE;SCALES;SCARF;SCHOOL;SCHOOL SATCHEL;SCOOTER",
  "SCORPION;SCORPIUS;SCREEN;SCRIPT CAPITAL B;SCRIPT CAPITAL E;SCRIPT CAPITAL F;SCRIPT CAPITAL H",
  "SCRIPT CAPITAL I;SCRIPT CAPITAL L;SCRIPT CAPITAL M;SCRIPT CAPITAL P;SCRIPT CAPITAL R",
  "SCRIPT SMALL E;SCRIPT SMALL G;SCRIPT SMALL L;SCRIPT SMALL O;SCROLL;SCRUPLE;SEAL;SEAT",
  "SECOND PLACE MEDAL;SECTION SIGN;SECTOR;SEE-NO-EVIL MONKEY;SEEDLING;SEGMENT;SELFIE;SEMICOLON",
  "SEMISEXTILE;SERIOUS FACE WITH SYMBOLS COVERING MOUTH;SERVICE MARK;SESQUIQUADRATE;SET MINUS",
  "SEXTILE;SHADOWED WHITE CIRCLE;SHADOWED WHITE LATIN CROSS;SHADOWED WHITE STAR",
  "SHALLOW PAN OF FOOD;SHAMROCK;SHARK;SHAVED ICE;SHEEP;SHIELD;SHIFT IN;SHIFT OUT;SHINTO SHRINE",
  "SHIP;SHOCKED FACE WITH EXPLODING HEAD;SHOOTING STAR;SHOPPING BAGS;SHOPPING TROLLEY",
  "SHORT BACKSLANTED SOUTH ARROW;SHORT SLANTED NORTH ARROW;SHORTCAKE;SHOULDERED OPEN BOX;SHOWER",
  "SHRIMP;SHRUG;SHY;SIDEWAYS BLACK DOWN POINTING INDEX;SIDEWAYS BLACK LEFT POINTING INDEX",
  "SIDEWAYS BLACK RIGHT POINTING INDEX;SIDEWAYS BLACK UP POINTING INDEX",
  "SIDEWAYS WHITE DOWN POINTING INDEX;SIDEWAYS WHITE LEFT POINTING INDEX",
  "SIDEWAYS WHITE RIGHT POINTING INDEX;SIDEWAYS WHITE UP POINTING INDEX;SIGN OF THE HORNS",
  "SILHOUETTE OF JAPAN;SINE WAVE;SINGLE HIGH-REVERSED-9 QUOTATION MARK",
  "SINGLE LEFT-POINTING ANGLE QUOTATION MARK;SINGLE LOW-9 QUOTATION MARK",
  "SINGLE RIGHT-POINTING ANGLE QUOTATION MARK;SIX PETALLED BLACK AND WHITE FLORETTE",
  "SIX POINTED BLACK STAR;SIX POINTED STAR WITH MIDDLE DOT;SIX-PER-EM SPACE",
  "SIXTEEN POINTED ASTERISK;SKATEBOARD;SKI AND SKI BOOT;SKIER;SKULL;SKULL AND CROSSBONES;SKUNK",
  "SLED;SLEEPING ACCOMMODATION;SLEEPING FACE;SLEEPING SYMBOL;SLEEPY FACE;SLEUTH OR SPY",
  "SLICE OF PIZZA;SLIGHTLY FROWNING FACE;SLIGHTLY SMILING FACE;SLOPE;SLOT MACHINE;SLOTH",
  "SMALL AIRPLANE;SMALL BLUE DIAMOND;SMALL CONTAINS AS MEMBER;SMALL CONTAINS WITH OVERBAR",
  "SMALL CONTAINS WITH VERTICAL BAR AT END OF HORIZONTAL STROKE;SMALL ELEMENT OF",
  "SMALL ELEMENT OF WITH OVERBAR;SMALL ELEMENT OF WITH VERTICAL BAR AT END OF HORIZONTAL STROKE",
  "SMALL ORANGE DIAMOND;SMALL ROMAN NUMERAL EIGHT;SMALL ROMAN NUMERAL ELEVEN",
  "SMALL ROMAN NUMERAL FIFTY;SMALL ROMAN NUMERAL FIVE;SMALL ROMAN NUMERAL FIVE HUNDRED",
  "SMALL ROMAN NUMERAL FOUR;SMALL ROMAN NUMERAL NINE;SMALL ROMAN NUMERAL ONE",
  "SMALL ROMAN NUMERAL ONE HUNDRED;SMALL ROMAN NUMERAL ONE THOUSAND;SMALL ROMAN NUMERAL SEVEN",
  "SMALL ROMAN NUMERAL SIX;SMALL ROMAN NUMERAL TEN;SMALL ROMAN NUMERAL THREE",
  "SMALL ROMAN NUMERAL TWELVE;SMALL ROMAN NUMERAL TWO;SMALL TILDE;SMILE",
  "SMILING CAT FACE WITH HEART-SHAPED EYES;SMILING CAT FACE WITH OPEN MOUTH",
  "SMILING FACE WITH HALO;SMILING FACE WITH HEART-SHAPED EYES;SMILING FACE WITH HORNS",
  "SMILING FACE WITH OPEN MOUTH;SMILING FACE WITH OPEN MOUTH AND COLD SWEAT",
  "SMILING FACE WITH OPEN MOUTH AND SMILING EYES",
  "SMILING FACE WITH OPEN MOUTH AND TIGHTLY-CLOSED EYES;SMILING FACE WITH SMILING EYES",
  "SMILING FACE WITH SMILING EYES AND HAND COVERING MOUTH",
  "SMILING FACE WITH SMILING EYES AND THREE HEARTS;SMILING FACE WITH SUNGLASSES",
  "SMILING FACE WITH TEAR;SMIRKING FACE;SMOKING SYMBOL;SNAIL;SNAKE;SNEEZING FACE",
  "SNOW CAPPED MOUNTAIN;SNOWBOARDER;SNOWFLAKE;SNOWMAN;SNOWMAN WITHOUT SNOW;SOCCER BALL;SOCKS",
  "SOFT HYPHEN;SOFT ICE CREAM;SOFT SHELL FLOPPY DISK;SOFTBALL;SOFTWARE-FUNCTION SYMBOL;SOLIDUS",
  "SOM SIGN;SOON WITH RIGHTWARDS ARROW ABOVE;SOUND RECORDING COPYRIGHT;SOUTH EAST ARROW",
  "SOUTH EAST ARROW TO CORNER;SOUTH EAST BLACK ARROW;SOUTH EAST DOUBLE ARROW",
  "SOUTH EAST WHITE ARROW;SOUTH WEST ARROW;SOUTH WEST BLACK ARROW;SOUTH WEST DOUBLE ARROW",
  "SOUTH WEST WHITE ARROW;SP;SPACE;SPAGHETTI;SPARKLE;SPARKLES;SPARKLING HEART",
  "SPEAK-NO-EVIL MONKEY;SPEAKER;SPEAKER WITH CANCELLATION STROKE;SPEAKER WITH ONE SOUND WAVE",
  "SPEAKER WITH THREE SOUND WAVES;SPEAKING HEAD IN SILHOUETTE;SPEECH BALLOON;SPEEDBOAT",
  "SPESMILO SIGN;SPHERICAL ANGLE;SPIDER;SPIDER WEB;SPIRAL CALENDAR PAD;SPIRAL NOTE PAD",
  "SPIRAL SHELL;SPLASHING SWEAT SYMBOL;SPONGE;SPOOL OF THREAD;SPOON;SPORTS MEDAL;SPOUTING WHALE",
  "SQUARE CAP;SQUARE CUP;SQUARE FOOT;SQUARE FOUR CORNERS;SQUARE IMAGE OF",
  "SQUARE IMAGE OF OR EQUAL TO;SQUARE IMAGE OF OR NOT EQUAL TO;SQUARE LOZENGE",
  "SQUARE ORIGINAL OF;SQUARE ORIGINAL OF OR EQUAL TO;SQUARE ORIGINAL OF OR NOT EQUAL TO",
  "SQUARE ROOT;SQUARE WITH BOTTOM HALF BLACK;SQUARE WITH DIAGONAL CROSSHATCH FILL",
  "SQUARE WITH HORIZONTAL FILL;SQUARE WITH LEFT HALF BLACK",
  "SQUARE WITH LOWER LEFT DIAGONAL HALF BLACK;SQUARE WITH LOWER RIGHT DIAGONAL HALF BLACK",
  "SQUARE WITH ORTHOGONAL CROSSHATCH FILL;SQUARE WITH RIGHT HALF BLACK",
  "SQUARE WITH TOP HALF BLACK;SQUARE WITH UPPER LEFT DIAGONAL HALF BLACK",
  "SQUARE WITH UPPER LEFT TO LOWER RIGHT FILL;SQUARE WITH UPPER RIGHT DIAGONAL HALF BLACK",
  "SQUARE WITH UPPER RIGHT TO LOWER LEFT FILL;SQUARE WITH VERTICAL FILL;SQUARED DOT OPERATOR",
  "SQUARED KEY;SQUARED MINUS;SQUARED PLUS;SQUARED SALTIRE;SQUARED TIMES",
  "SQUAT BLACK RIGHTWARDS ARROW;SQUID;STADIUM;STAFF OF AESCULAPIUS;STAFF OF HERMES",
  "STAMPED ENVELOPE;STANDING PERSON;STAR AND CRESCENT;STAR EQUALS;STAR OF DAVID;STAR OPERATOR",
  "START OF HEADING;START OF TEXT;STATION;STATUE OF LIBERTY;STEAM LOCOMOTIVE;STEAMING BOWL",
  "STOCK CHART;STOPWATCH;STRAIGHT RULER;STRAIGHTNESS;STRAWBERRY;STRESS OUTLINED WHITE STAR",
  "STRICTLY EQUIVALENT TO;STUDIO MICROPHONE;STUFFED FLATBREAD;STUPA;SUBSCRIPT EIGHT",
  "SUBSCRIPT EQUALS SIGN;SUBSCRIPT FIVE;SUBSCRIPT FOUR;SUBSCRIPT LEFT PARENTHESIS",
  "SUBSCRIPT MINUS;SUBSCRIPT NINE;SUBSCRIPT ONE;SUBSCRIPT PLUS SIGN;SUBSCRIPT RIGHT PARENTHESIS",
  "SUBSCRIPT SEVEN;SUBSCRIPT SIX;SUBSCRIPT THREE;SUBSCRIPT TWO;SUBSCRIPT ZERO;SUBSET OF",
  "SUBSET OF OR EQUAL TO;SUBSET OF WITH NOT EQUAL TO;SUCCEEDS;SUCCEEDS BUT NOT EQUIVALENT TO",
  "SUCCEEDS OR EQUAL TO;SUCCEEDS OR EQUIVALENT TO;SUCCEEDS UNDER RELATION;SUMMATION BOTTOM",
  "SUMMATION TOP;SUN;SUN BEHIND CLOUD;SUN WITH FACE;SUNFLOWER;SUNRISE;SUNRISE OVER MOUNTAINS",
  "SUNSET OVER BUILDINGS;SUPERHERO;SUPERSCRIPT EIGHT;SUPERSCRIPT EQUALS SIGN;SUPERSCRIPT FIVE",
  "SUPERSCRIPT FOUR;SUPERSCRIPT LATIN SMALL LETTER I;SUPERSCRIPT LATIN SMALL LETTER N",
  "SUPERSCRIPT LEFT PARENTHESIS;SUPERSCRIPT MINUS;SUPERSCRIPT NINE;SUPERSCRIPT ONE",
  "SUPERSCRIPT PLUS SIGN;SUPERSCRIPT RIGHT PARENTHESIS;SUPERSCRIPT SEVEN;SUPERSCRIPT SIX",
  "SUPERSCRIPT THREE;SUPERSCRIPT TWO;SUPERSCRIPT ZERO;SUPERSET OF;SUPERSET OF OR EQUAL TO",
  "SUPERSET OF WITH NOT EQUAL TO;SUPERVILLAIN;SURFACE INTEGRAL;SURFER;SUSHI;SUSPENSION RAILWAY",
  "SWAN;SWIMMER;SWUNG DASH;SYMBOL FOR MARKS CHAPTER;SYMBOL FOR SAMARITAN SOURCE;SYMMETRY",
  "SYNAGOGUE;SYRINGE;T-REX;T-SHIRT;TAB;TABLE TENNIS PADDLE AND BALL;TACO;TAKEOUT BOX",
  "TANABATA TREE;TANGERINE;TAPE CARTRIDGE;TAPE DRIVE;TAURUS;TAXI;TEACUP WITHOUT HANDLE",
  "TEAR-OFF CALENDAR;TEARDROP-BARBED RIGHTWARDS ARROW;TEARDROP-SPOKED ASTERISK;TEDDY BEAR",
  "TELEPHONE LOCATION SIGN;TELEPHONE ON TOP OF MODEM;TELEPHONE RECEIVER",
  "TELEPHONE RECEIVER WITH PAGE;TELEPHONE RECORDER;TELEPHONE SIGN;TELESCOPE;TELEVISION",
  "TENGE SIGN;TENNIS RACQUET AND BALL;TENT;TEST TUBE;THERE DOES NOT EXIST;THERE EXISTS",
  "THEREFORE;THERMOMETER;THIN SPACE;THINKING FACE;THIRD PLACE MEDAL;THOUGHT BALLOON",
  "THREE BUTTON MOUSE;THREE DOT PUNCTUATION;THREE LEFTWARDS ARROWS;THREE LINES CONVERGING LEFT",
  "THREE LINES CONVERGING RIGHT;THREE NETWORKED COMPUTERS;THREE RAYS ABOVE;THREE RAYS BELOW",
  "THREE RAYS LEFT;THREE RAYS RIGHT;THREE RIGHTWARDS ARROWS;THREE SPEECH BUBBLES",
  "THREE-D BOTTOM-LIGHTED RIGHTWARDS ARROWHEAD;THREE-D TOP-LIGHTED RIGHTWARDS ARROWHEAD",
  "THREE-PER-EM SPACE;THUMBS DOWN SIGN;THUMBS UP SIGN;THUNDER CLOUD AND RAIN;THUNDERSTORM",
  "TICKET;TIGER;TIGER FACE;TIGHT TRIFOLIATE SNOWFLAKE;TILDE;TILDE OPERATOR",
  "TILDE OPERATOR ABOVE LEFTWARDS ARROW;TIMER CLOCK;TIRED FACE;TIRONIAN SIGN ET;TOILET",
  "TOKYO TOWER;TOMATO;TONGUE;TOOLBOX;TOOTH;TOP CURLY BRACKET;TOP HALF INTEGRAL;TOP HAT",
  "TOP LEFT CORNER;TOP LEFT CROP;TOP PARENTHESIS;TOP RIGHT CORNER;TOP RIGHT CROP",
  "TOP SQUARE BRACKET;TOP TORTOISE SHELL BRACKET;TOP WITH UPWARDS ARROW ABOVE;TOTAL RUNOUT",
  "TRACKBALL;TRACTOR;TRADE MARK SIGN;TRAIN;TRAM;TRAM CAR;TRIANGLE WITH ROUNDED CORNERS",
  "TRIANGLE-HEADED RIGHTWARDS ARROW;TRIANGULAR BULLET;TRIANGULAR FLAG ON POST;TRIANGULAR RULER",
  "TRICOLON;TRIDENT EMBLEM;TRIGRAM FOR EARTH;TRIGRAM FOR FIRE;TRIGRAM FOR HEAVEN",
  "TRIGRAM FOR LAKE;TRIGRAM FOR MOUNTAIN;TRIGRAM FOR THUNDER;TRIGRAM FOR WATER;TRIGRAM FOR WIND",
  "TRIPLE INTEGRAL;TRIPLE PRIME;TRIPLE TILDE;TRIPLE VERTICAL BAR RIGHT TURNSTILE;TROLL",
  "TROLLEYBUS;TROPHY;TROPICAL DRINK;TROPICAL FISH;TRUE;TRUMPET;TUGRIK SIGN;TULIP;TUMBLER GLASS",
  "TURKEY;TURKISH LIRA SIGN;TURNED AMPERSAND;TURNED BLACK SHOGI PIECE;TURNED CAPITAL F",
  "TURNED DIGIT THREE;TURNED DIGIT TWO;TURNED GREEK SMALL LETTER IOTA;TURNED NOT SIGN",
  "TURNED OK HAND SIGN;TURNED SANS-SERIF CAPITAL G;TURNED SANS-SERIF CAPITAL L",
  "TURNED SANS-SERIF CAPITAL Y;TURNED SMALL F;TURNED WHITE SHOGI PIECE;TURTLE",
  "TWELVE POINTED BLACK STAR;TWISTED RIGHTWARDS ARROWS;TWO ASTERISKS ALIGNED VERTICALLY",
  "TWO BUTTON MOUSE;TWO DOT LEADER;TWO DOT PUNCTUATION;TWO HEARTS;TWO MEN HOLDING HANDS",
  "TWO SPEECH BUBBLES;TWO WOMEN HOLDING HANDS;UMBRELLA;UMBRELLA ON GROUND",
  "UMBRELLA WITH RAIN DROPS;UNAMUSED FACE;UNDERTIE;UNDO SYMBOL;UNICORN FACE;UNION",
  "UNIVERSAL RECYCLING SYMBOL;UNMARRIED PARTNERSHIP SYMBOL;UP ARROWHEAD",
  "UP ARROWHEAD BETWEEN TWO HORIZONTAL BARS;UP DOWN ARROW;UP DOWN ARROW WITH BASE",
  "UP DOWN BLACK ARROW;UP DOWN DOUBLE ARROW;UP DOWN WHITE ARROW;UP RIGHT DIAGONAL ELLIPSIS",
  "UP TACK;UP-POINTING AIRPLANE;UP-POINTING MILITARY AIRPLANE;UP-POINTING RED TRIANGLE",
  "UP-POINTING SMALL AIRPLANE;UP-POINTING SMALL RED TRIANGLE",
  "UP-POINTING TRIANGLE WITH LEFT HALF BLACK;UP-POINTING TRIANGLE WITH RIGHT HALF BLACK",
  "UPPER BLADE SCISSORS;UPPER HALF BLOCK;UPPER HALF CIRCLE;UPPER HALF INVERSE WHITE CIRCLE",
  "UPPER LEFT OR LOWER RIGHT CURLY BRACKET SECTION;UPPER LEFT QUADRANT CIRCULAR ARC",
  "UPPER LEFT TRIANGLE;UPPER ONE EIGHTH BLOCK;UPPER RIGHT DROP-SHADOWED WHITE SQUARE",
  "UPPER RIGHT OR LOWER LEFT CURLY BRACKET SECTION;UPPER RIGHT PENCIL",
  "UPPER RIGHT QUADRANT CIRCULAR ARC;UPPER RIGHT SHADOWED WHITE CIRCLE",
  "UPPER RIGHT SHADOWED WHITE SQUARE;UPPER RIGHT TRIANGLE;UPSIDE-DOWN FACE;UPWARDS ARROW",
  "UPWARDS ARROW FROM BAR;UPWARDS ARROW LEFTWARDS OF DOWNWARDS ARROW",
  "UPWARDS ARROW WITH DOUBLE STROKE;UPWARDS ARROW WITH TIP LEFTWARDS",
  "UPWARDS ARROW WITH TIP RIGHTWARDS;UPWARDS BLACK ARROW;UPWARDS DASHED ARROW",
  "UPWARDS DOUBLE ARROW;UPWARDS HARPOON WITH BARB LEFTWARDS",
  "UPWARDS HARPOON WITH BARB RIGHTWARDS;UPWARDS PAIRED ARROWS;UPWARDS TWO HEADED ARROW",
  "UPWARDS WHITE ARROW;UPWARDS WHITE ARROW FROM BAR;UPWARDS WHITE ARROW ON PEDESTAL",
  "UPWARDS WHITE ARROW ON PEDESTAL WITH HORIZONTAL BAR",
  "UPWARDS WHITE ARROW ON PEDESTAL WITH VERTICAL BAR;UPWARDS WHITE DOUBLE ARROW",
  "UPWARDS WHITE DOUBLE ARROW ON PEDESTAL;URANUS;VAMPIRE;VARIATION SELECTOR-1",
  "VARIATION SELECTOR-10;VARIATION SELECTOR-11;VARIATION SELECTOR-12;VARIATION SELECTOR-13",
  "VARIATION SELECTOR-14;VARIATION SELECTOR-15;VARIATION SELECTOR-16;VARIATION SELECTOR-2",
  "VARIATION SELECTOR-3;VARIATION SELECTOR-4;VARIATION SELECTOR-5;VARIATION SELECTOR-6",
  "VARIATION SELECTOR-7;VARIATION SELECTOR-8;VARIATION SELECTOR-9;VERSICLE;VERTICAL ELLIPSIS",
  "VERTICAL FOUR DOTS;VERTICAL LINE;VERTICAL LINE EXTENSION;VERTICAL LINE WITH MIDDLE DOT",
  "VERTICAL MALE WITH STROKE SIGN;VERTICAL TABULATION;VERTICAL TRAFFIC LIGHT",
  "VERY MUCH GREATER-THAN;VERY MUCH LESS-THAN;VESTA;VIBRATION MODE;VICTORY HAND;VIDEO CAMERA",
  "VIDEO GAME;VIDEOCASSETTE;VIEWDATA SQUARE;VIOLIN;VIRGO;VOLCANO;VOLLEYBALL;VOLUME INTEGRAL;VT",
  "VULGAR FRACTION FIVE EIGHTHS;VULGAR FRACTION FIVE SIXTHS;VULGAR FRACTION FOUR FIFTHS",
  "VULGAR FRACTION ONE EIGHTH;VULGAR FRACTION ONE FIFTH;VULGAR FRACTION ONE HALF",
  "VULGAR FRACTION ONE NINTH;VULGAR FRACTION ONE QUARTER;VULGAR FRACTION ONE SEVENTH",
  "VULGAR FRACTION ONE SIXTH;VULGAR FRACTION ONE TENTH;VULGAR FRACTION ONE THIRD",
  "VULGAR FRACTION SEVEN EIGHTHS;VULGAR FRACTION THREE EIGHTHS;VULGAR FRACTION THREE FIFTHS",
  "VULGAR FRACTION THREE QUARTERS;VULGAR FRACTION TWO FIFTHS;VULGAR FRACTION TWO THIRDS",
  "VULGAR FRACTION ZERO THIRDS;WAFFLE;WANING CRESCENT MOON SYMBOL;WANING GIBBOUS MOON SYMBOL",
  "WARNING SIGN;WASTEBASKET;WATCH;WATER BUFFALO;WATER CLOSET;WATER POLO;WATER WAVE;WATERMELON",
  "WAVE ARROW POINTING DIRECTLY LEFT;WAVE DASH;WAVING BLACK FLAG;WAVING HAND SIGN",
  "WAVING WHITE FLAG;WAVY LINE;WAXING CRESCENT MOON SYMBOL;WAXING GIBBOUS MOON SYMBOL",
  "WEARY CAT FACE;WEARY FACE;WEDDING;WEDGE-TAILED RIGHTWARDS ARROW;WEIGHT LIFTER",
  "WEST SYRIAC CROSS;WHALE;WHEEL;WHEEL OF DHARMA;WHEELCHAIR SYMBOL;WHITE BULLET",
  "WHITE CHESS BISHOP;WHITE CHESS KING;WHITE CHESS KNIGHT;WHITE CHESS PAWN;WHITE CHESS QUEEN",
  "WHITE CHESS ROOK;WHITE CIRCLE;WHITE CIRCLE WITH DOT RIGHT",
  "WHITE CIRCLE WITH LOWER LEFT QUADRANT;WHITE CIRCLE WITH LOWER RIGHT QUADRANT",
  "WHITE CIRCLE WITH TWO DOTS;WHITE CIRCLE WITH UPPER LEFT QUADRANT",
  "WHITE CIRCLE WITH UPPER RIGHT QUADRANT;WHITE CLUB SUIT;WHITE DIAMOND",
  "WHITE DIAMOND CONTAINING BLACK SMALL DIAMOND;WHITE DIAMOND IN SQUARE;WHITE DIAMOND SUIT",
  "WHITE DOWN POINTING BACKHAND INDEX;WHITE DOWN POINTING INDEX",
  "WHITE DOWN POINTING LEFT HAND INDEX;WHITE DOWN-POINTING SMALL TRIANGLE",
  "WHITE DOWN-POINTING TRIANGLE;WHITE DRAUGHTS KING;WHITE DRAUGHTS MAN",
  "WHITE EXCLAMATION MARK ORNAMENT;WHITE FLAG;WHITE FLAG WITH HORIZONTAL MIDDLE BLACK STRIPE",
  "WHITE FLORETTE;WHITE FLOWER;WHITE FOUR POINTED STAR;WHITE FROWNING FACE",
  "WHITE HARD SHELL FLOPPY DISK;WHITE HEART;WHITE HEART SUIT;WHITE HEAVY CHECK MARK",
  "WHITE HEXAGON;WHITE HORIZONTAL ELLIPSE;WHITE LARGE SQUARE;WHITE LATIN CROSS",
  "WHITE LEFT LANE MERGE;WHITE LEFT POINTING BACKHAND INDEX;WHITE LEFT POINTING INDEX",
  "WHITE LEFT-POINTING POINTER;WHITE LEFT-POINTING SMALL TRIANGLE;WHITE LEFT-POINTING TRIANGLE",
  "WHITE MEDIUM DIAMOND;WHITE MEDIUM LOZENGE;WHITE MEDIUM SMALL SQUARE;WHITE MEDIUM SQUARE",
  "WHITE MEDIUM STAR;WHITE NIB;WHITE PARALLELOGRAM;WHITE PENNANT;WHITE PENTAGON",
  "WHITE QUESTION MARK ORNAMENT;WHITE RECTANGLE;WHITE RIGHT POINTING BACKHAND INDEX",
  "WHITE RIGHT POINTING INDEX;WHITE RIGHT-POINTING PENTAGON;WHITE RIGHT-POINTING POINTER",
  "WHITE RIGHT-POINTING SMALL TRIANGLE;WHITE RIGHT-POINTING TRIANGLE;WHITE SCISSORS",
  "WHITE SHOGI PIECE;WHITE SMALL LOZENGE;WHITE SMALL SQUARE;WHITE SMALL STAR;WHITE SMILING FACE",
  "WHITE SPADE SUIT;WHITE SQUARE;WHITE SQUARE BUTTON;WHITE SQUARE CONTAINING BLACK SMALL SQUARE",
  "WHITE SQUARE WITH CENTRE VERTICAL LINE;WHITE SQUARE WITH LOWER LEFT QUADRANT",
  "WHITE SQUARE WITH LOWER RIGHT QUADRANT;WHITE SQUARE WITH ROUNDED CORNERS",
  "WHITE SQUARE WITH UPPER LEFT QUADRANT;WHITE SQUARE WITH UPPER RIGHT QUADRANT",
  "WHITE SQUARE WITH VERTICAL BISECTING LINE;WHITE STAR;WHITE SUN;WHITE SUN BEHIND CLOUD",
  "WHITE SUN BEHIND CLOUD WITH RAIN;WHITE SUN WITH RAYS;WHITE SUN WITH SMALL CLOUD",
  "WHITE TELEPHONE;WHITE TOUCHTONE TELEPHONE;WHITE TRAPEZIUM;WHITE TWO-WAY LEFT WAY TRAFFIC",
  "WHITE UP POINTING BACKHAND INDEX;WHITE UP POINTING INDEX;WHITE UP-POINTING SMALL TRIANGLE",
  "WHITE UP-POINTING TRIANGLE;WHITE UP-POINTING TRIANGLE WITH DOT;WHITE VERTICAL ELLIPSE",
  "WHITE VERTICAL RECTANGLE;WHITE VERY SMALL SQUARE;WHITE-FEATHERED RIGHTWARDS ARROW",
  "WILTED FLOWER;WIND BLOWING FACE;WIND CHIME;WINE GLASS;WINKING FACE;WIRED KEYBOARD;WJ",
  "WOLF FACE;WOMAN;WOMAN WITH BUNNY EARS;WOMANS BOOTS;WOMANS CLOTHES;WOMANS HAT;WOMANS SANDAL",
  "WOMENS SYMBOL;WON SIGN;WORLD MAP;WORRIED FACE;WRAPPED PRESENT;WREATH PRODUCT;WRENCH",
  "WRESTLERS;WRITING HAND;X IN A RECTANGLE BOX;XOR;YAWNING FACE;YELLOW HEART;YEN SIGN;YIN YANG",
  "Z NOTATION BAG MEMBERSHIP;ZEBRA FACE;ZERO WIDTH JOINER;ZERO WIDTH NO-BREAK SPACE",
  "ZERO WIDTH NON-JOINER;ZERO WIDTH SPACE;ZIPPER-MOUTH FACE;ZOMBIE;ZWJ;ZWNBSP;ZWNJ;ZWSP"]

end BindingAudit.Text.CharacterName
