/-!
# CommitRules.Regex.SymbolNames

Names of arrows, mathematical and technical symbols, shapes and pictures, written like those of
letters.
-/

namespace CommitRules.Regex

/-- Names of symbols. -/
def symbolNames : String :=
  "2190: LEFTWARDS ARROW; UPWARDS ARROW; RIGHTWARDS ARROW; DOWNWARDS ARROW; LEFT RIGHT ARROW; UP
   DOWN ARROW; NORTH WEST ARROW; NORTH EAST ARROW; SOUTH EAST ARROW; SOUTH WEST ARROW.
   219A+ LEFTWARDS: ARROW WITH STROKE; WAVE ARROW; TWO HEADED ARROW.
   219B+ RIGHTWARDS: ARROW WITH STROKE; WAVE ARROW.
   219F: UPWARDS TWO HEADED ARROW; RIGHTWARDS TWO HEADED ARROW; DOWNWARDS TWO HEADED ARROW.
   21A2+ LEFTWARDS ARROW: WITH TAIL; FROM BAR.
   21A3: RIGHTWARDS ARROW WITH TAIL.
   21A5: UPWARDS ARROW FROM BAR; RIGHTWARDS ARROW FROM BAR; DOWNWARDS ARROW FROM BAR; UP DOWN ARROW
   WITH BASE.
   21A9+ LEFTWARDS ARROW WITH: HOOK; LOOP.
   21AA+ RIGHTWARDS ARROW WITH: HOOK; LOOP.
   21AD LEFT RIGHT: WAVE ARROW; ARROW WITH STROKE.
   21AF: DOWNWARDS ZIGZAG ARROW.
   21B0 UPWARDS ARROW WITH TIP: LEFTWARDS; RIGHTWARDS.
   21B2 DOWNWARDS ARROW WITH TIP: LEFTWARDS; RIGHTWARDS.
   21B4: RIGHTWARDS ARROW WITH CORNER DOWNWARDS; DOWNWARDS ARROW WITH CORNER LEFTWARDS;
   ANTICLOCKWISE TOP SEMICIRCLE ARROW; CLOCKWISE TOP SEMICIRCLE ARROW; NORTH WEST ARROW TO LONG
   BAR; LEFTWARDS ARROW TO BAR OVER RIGHTWARDS ARROW TO BAR; ANTICLOCKWISE OPEN CIRCLE ARROW;
   CLOCKWISE OPEN CIRCLE ARROW.
   21BC LEFTWARDS HARPOON WITH BARB: UPWARDS; DOWNWARDS.
   21BE UPWARDS HARPOON WITH BARB: RIGHTWARDS; LEFTWARDS.
   21C0 RIGHTWARDS HARPOON WITH BARB: UPWARDS; DOWNWARDS.
   21C2 DOWNWARDS HARPOON WITH BARB: RIGHTWARDS; LEFTWARDS.
   21C4: RIGHTWARDS ARROW OVER LEFTWARDS ARROW; UPWARDS ARROW LEFTWARDS OF DOWNWARDS ARROW.
   21C6 LEFTWARDS: ARROW OVER RIGHTWARDS ARROW; PAIRED ARROWS.
   21C8: UPWARDS PAIRED ARROWS; RIGHTWARDS PAIRED ARROWS; DOWNWARDS PAIRED ARROWS.
   21CB+ LEFTWARDS: HARPOON OVER RIGHTWARDS HARPOON; DOUBLE ARROW WITH STROKE.
   21CC: RIGHTWARDS HARPOON OVER LEFTWARDS HARPOON.
   21CE: LEFT RIGHT DOUBLE ARROW WITH STROKE; RIGHTWARDS DOUBLE ARROW WITH STROKE; LEFTWARDS DOUBLE
   ARROW; UPWARDS DOUBLE ARROW; RIGHTWARDS DOUBLE ARROW; DOWNWARDS DOUBLE ARROW; LEFT RIGHT DOUBLE
   ARROW; UP DOWN DOUBLE ARROW; NORTH WEST DOUBLE ARROW; NORTH EAST DOUBLE ARROW; SOUTH EAST DOUBLE
   ARROW; SOUTH WEST DOUBLE ARROW.
   21DA+ LEFTWARDS: TRIPLE ARROW; SQUIGGLE ARROW.
   21DB+ RIGHTWARDS: TRIPLE ARROW; SQUIGGLE ARROW.
   21DE: UPWARDS ARROW WITH DOUBLE STROKE; DOWNWARDS ARROW WITH DOUBLE STROKE; LEFTWARDS DASHED
   ARROW; UPWARDS DASHED ARROW; RIGHTWARDS DASHED ARROW; DOWNWARDS DASHED ARROW.
   21E4+ LEFTWARDS: ARROW TO BAR; WHITE ARROW.
   21E5: RIGHTWARDS ARROW TO BAR.
   21E7: UPWARDS WHITE ARROW; RIGHTWARDS WHITE ARROW; DOWNWARDS WHITE ARROW.
   21EA UPWARDS WHITE: ARROW FROM BAR; ARROW ON PEDESTAL; ARROW ON PEDESTAL WITH HORIZONTAL BAR;
   ARROW ON PEDESTAL WITH VERTICAL BAR; DOUBLE ARROW; DOUBLE ARROW ON PEDESTAL.
   21F0: RIGHTWARDS WHITE ARROW FROM WALL; NORTH WEST ARROW TO CORNER; SOUTH EAST ARROW TO CORNER;
   UP DOWN WHITE ARROW; RIGHT ARROW WITH SMALL CIRCLE; DOWNWARDS ARROW LEFTWARDS OF UPWARDS ARROW;
   THREE RIGHTWARDS ARROWS; LEFTWARDS ARROW WITH VERTICAL STROKE; RIGHTWARDS ARROW WITH VERTICAL
   STROKE; LEFT RIGHT ARROW WITH VERTICAL STROKE; LEFTWARDS ARROW WITH DOUBLE VERTICAL STROKE;
   RIGHTWARDS ARROW WITH DOUBLE VERTICAL STROKE; LEFT RIGHT ARROW WITH DOUBLE VERTICAL STROKE;
   LEFTWARDS OPEN-HEADED ARROW; RIGHTWARDS OPEN-HEADED ARROW; LEFT RIGHT OPEN-HEADED ARROW; FOR
   ALL; COMPLEMENT; PARTIAL DIFFERENTIAL; THERE EXISTS; THERE DOES NOT EXIST; EMPTY SET; INCREMENT;
   NABLA; ELEMENT OF; NOT AN ELEMENT OF; SMALL ELEMENT OF; CONTAINS AS MEMBER; DOES NOT CONTAIN AS
   MEMBER; SMALL CONTAINS AS MEMBER; END OF PROOF.
   220F N-ARY: PRODUCT; COPRODUCT; SUMMATION.
   2212: MINUS SIGN; MINUS-OR-PLUS SIGN; DOT PLUS; DIVISION SLASH; SET MINUS; ASTERISK OPERATOR;
   RING OPERATOR; BULLET OPERATOR; SQUARE ROOT; CUBE ROOT; FOURTH ROOT; PROPORTIONAL TO; INFINITY;
   RIGHT ANGLE; ANGLE; MEASURED ANGLE; SPHERICAL ANGLE; DIVIDES; DOES NOT DIVIDE; PARALLEL TO; NOT
   PARALLEL TO; LOGICAL AND; LOGICAL OR; INTERSECTION; UNION; INTEGRAL; DOUBLE INTEGRAL; TRIPLE
   INTEGRAL; CONTOUR INTEGRAL; SURFACE INTEGRAL; VOLUME INTEGRAL.
   2231 CLOCKWISE: INTEGRAL; CONTOUR INTEGRAL.
   2233: ANTICLOCKWISE CONTOUR INTEGRAL; THEREFORE; BECAUSE; RATIO; PROPORTION; DOT MINUS; EXCESS;
   GEOMETRIC PROPORTION; HOMOTHETIC; TILDE OPERATOR; REVERSED TILDE; INVERTED LAZY S; SINE WAVE;
   WREATH PRODUCT; NOT TILDE; MINUS TILDE; ASYMPTOTICALLY EQUAL TO; NOT ASYMPTOTICALLY EQUAL TO.
   2245 APPROXIMATELY: EQUAL TO; BUT NOT ACTUALLY EQUAL TO.
   2247: NEITHER APPROXIMATELY NOR ACTUALLY EQUAL TO.
   2248+ ALMOST EQUAL: TO; OR EQUAL TO.
   2249: NOT ALMOST EQUAL TO.
   224B: TRIPLE TILDE; ALL EQUAL TO; EQUIVALENT TO; GEOMETRICALLY EQUIVALENT TO; DIFFERENCE
   BETWEEN; APPROACHES THE LIMIT; GEOMETRICALLY EQUAL TO; APPROXIMATELY EQUAL TO OR THE IMAGE OF;
   IMAGE OF OR APPROXIMATELY EQUAL TO; COLON EQUALS; EQUALS COLON; RING IN EQUAL TO; RING EQUAL TO;
   CORRESPONDS TO; ESTIMATES; EQUIANGULAR TO; STAR EQUALS; DELTA EQUAL TO; EQUAL TO BY DEFINITION;
   MEASURED BY; QUESTIONED EQUAL TO; NOT EQUAL TO; IDENTICAL TO; NOT IDENTICAL TO; STRICTLY
   EQUIVALENT TO.
   2264+ LESS-THAN: OR EQUAL TO; OVER EQUAL TO; BUT NOT EQUAL TO.
   2265+ GREATER-THAN: OR EQUAL TO; OVER EQUAL TO; BUT NOT EQUAL TO.
   226A: MUCH LESS-THAN; MUCH GREATER-THAN; BETWEEN; NOT EQUIVALENT TO; NOT LESS-THAN; NOT
   GREATER-THAN; NEITHER LESS-THAN NOR EQUAL TO; NEITHER GREATER-THAN NOR EQUAL TO; LESS-THAN OR
   EQUIVALENT TO; GREATER-THAN OR EQUIVALENT TO; NEITHER LESS-THAN NOR EQUIVALENT TO; NEITHER
   GREATER-THAN NOR EQUIVALENT TO; LESS-THAN OR GREATER-THAN; GREATER-THAN OR LESS-THAN; NEITHER
   LESS-THAN NOR GREATER-THAN; NEITHER GREATER-THAN NOR LESS-THAN; PRECEDES; SUCCEEDS.
   227C+ PRECEDES OR: EQUAL TO; EQUIVALENT TO.
   227D+ SUCCEEDS OR: EQUAL TO; EQUIVALENT TO.
   2280 DOES NOT: PRECEDE; SUCCEED.
   2282: SUBSET OF; SUPERSET OF; NOT A SUBSET OF; NOT A SUPERSET OF; SUBSET OF OR EQUAL TO;
   SUPERSET OF OR EQUAL TO.
   2288 NEITHER A: SUBSET OF NOR EQUAL TO; SUPERSET OF NOR EQUAL TO.
   228A: SUBSET OF WITH NOT EQUAL TO; SUPERSET OF WITH NOT EQUAL TO; MULTISET.
   228D MULTISET: MULTIPLICATION; UNION.
   228F SQUARE: IMAGE OF; ORIGINAL OF; IMAGE OF OR EQUAL TO; ORIGINAL OF OR EQUAL TO; CAP; CUP.
   2295 CIRCLED: PLUS; MINUS; TIMES; DIVISION SLASH; DOT OPERATOR; RING OPERATOR; ASTERISK
   OPERATOR; EQUALS; DASH.
   229E SQUARED: PLUS; MINUS; TIMES; DOT OPERATOR.
   22A2: RIGHT TACK; LEFT TACK; DOWN TACK; UP TACK; ASSERTION; MODELS; TRUE; FORCES; TRIPLE
   VERTICAL BAR RIGHT TURNSTILE; DOUBLE VERTICAL BAR DOUBLE RIGHT TURNSTILE.
   22AC+ DOES NOT: PROVE; FORCE.
   22AD: NOT TRUE.
   22AF: NEGATED DOUBLE VERTICAL BAR DOUBLE RIGHT TURNSTILE; PRECEDES UNDER RELATION; SUCCEEDS
   UNDER RELATION.
   22B2+ NORMAL SUBGROUP: OF; OF OR EQUAL TO.
   22B3+ CONTAINS AS NORMAL: SUBGROUP; SUBGROUP OR EQUAL TO.
   22B6: ORIGINAL OF; IMAGE OF; MULTIMAP; HERMITIAN CONJUGATE MATRIX; INTERCALATE; XOR; NAND; NOR;
   RIGHT ANGLE WITH ARC; RIGHT TRIANGLE.
   22C0 N-ARY: LOGICAL AND; LOGICAL OR; INTERSECTION; UNION.
   22C4: DIAMOND OPERATOR; DOT OPERATOR; STAR OPERATOR; DIVISION TIMES; BOWTIE; LEFT NORMAL FACTOR
   SEMIDIRECT PRODUCT; RIGHT NORMAL FACTOR SEMIDIRECT PRODUCT; LEFT SEMIDIRECT PRODUCT; RIGHT
   SEMIDIRECT PRODUCT; REVERSED TILDE EQUALS.
   22CE CURLY LOGICAL: OR; AND.
   22D0 DOUBLE: SUBSET; SUPERSET; INTERSECTION; UNION.
   22D4: PITCHFORK; EQUAL AND PARALLEL TO; LESS-THAN WITH DOT; GREATER-THAN WITH DOT.
   22D8 VERY MUCH: LESS-THAN; GREATER-THAN.
   22DA: LESS-THAN EQUAL TO OR GREATER-THAN; GREATER-THAN EQUAL TO OR LESS-THAN.
   22DC EQUAL TO OR: LESS-THAN; GREATER-THAN; PRECEDES; SUCCEEDS.
   22E0 DOES NOT: PRECEDE OR EQUAL; SUCCEED OR EQUAL.
   22E2 NOT SQUARE: IMAGE OF OR EQUAL TO; ORIGINAL OF OR EQUAL TO.
   22E4: SQUARE IMAGE OF OR NOT EQUAL TO; SQUARE ORIGINAL OF OR NOT EQUAL TO; LESS-THAN BUT NOT
   EQUIVALENT TO; GREATER-THAN BUT NOT EQUIVALENT TO; PRECEDES BUT NOT EQUIVALENT TO; SUCCEEDS BUT
   NOT EQUIVALENT TO.
   22EA+ NOT NORMAL SUBGROUP: OF; OF OR EQUAL TO.
   22EB+ DOES NOT CONTAIN AS NORMAL: SUBGROUP; SUBGROUP OR EQUAL.
   22EE: VERTICAL ELLIPSIS; MIDLINE HORIZONTAL ELLIPSIS; UP RIGHT DIAGONAL ELLIPSIS; DOWN RIGHT
   DIAGONAL ELLIPSIS.
   22F2 ELEMENT OF WITH: LONG HORIZONTAL STROKE; VERTICAL BAR AT END OF HORIZONTAL STROKE.
   22F4: SMALL ELEMENT OF WITH VERTICAL BAR AT END OF HORIZONTAL STROKE.
   22F5 ELEMENT OF WITH: DOT ABOVE; OVERBAR.
   22F7: SMALL ELEMENT OF WITH OVERBAR.
   22F8 ELEMENT OF WITH: UNDERBAR; TWO HORIZONTAL STROKES.
   22FA CONTAINS WITH: LONG HORIZONTAL STROKE; VERTICAL BAR AT END OF HORIZONTAL STROKE.
   22FC+ SMALL CONTAINS WITH: VERTICAL BAR AT END OF HORIZONTAL STROKE; OVERBAR.
   22FD: CONTAINS WITH OVERBAR.
   22FF: Z NOTATION BAG MEMBERSHIP; DIAMETER SIGN; ELECTRIC ARROW; HOUSE; UP ARROWHEAD; DOWN
   ARROWHEAD; PROJECTIVE; PERSPECTIVE; WAVY LINE; LEFT CEILING; RIGHT CEILING; LEFT FLOOR; RIGHT
   FLOOR; BOTTOM RIGHT CROP; BOTTOM LEFT CROP; TOP RIGHT CROP; TOP LEFT CROP; REVERSED NOT SIGN;
   SQUARE LOZENGE; ARC; SEGMENT; SECTOR; TELEPHONE RECORDER; POSITION INDICATOR; VIEWDATA SQUARE;
   PLACE OF INTEREST SIGN; TURNED NOT SIGN; WATCH; HOURGLASS; TOP LEFT CORNER; TOP RIGHT CORNER;
   BOTTOM LEFT CORNER; BOTTOM RIGHT CORNER; TOP HALF INTEGRAL; BOTTOM HALF INTEGRAL; FROWN; SMILE;
   UP ARROWHEAD BETWEEN TWO HORIZONTAL BARS; OPTION KEY; ERASE TO THE RIGHT; X IN A RECTANGLE BOX;
   KEYBOARD; LEFT-POINTING ANGLE BRACKET; RIGHT-POINTING ANGLE BRACKET; ERASE TO THE LEFT; BENZENE
   RING; CYLINDRICITY; ALL AROUND-PROFILE; SYMMETRY; TOTAL RUNOUT; DIMENSION ORIGIN; CONICAL TAPER;
   SLOPE; COUNTERBORE; COUNTERSINK.
   2336 APL FUNCTIONAL SYMBOL: I-BEAM; SQUISH QUAD; QUAD EQUAL; QUAD DIVIDE; QUAD DIAMOND; QUAD
   JOT; QUAD CIRCLE; CIRCLE STILE; CIRCLE JOT; SLASH BAR; BACKSLASH BAR; QUAD SLASH; QUAD
   BACKSLASH; QUAD LESS-THAN; QUAD GREATER-THAN; LEFTWARDS VANE; RIGHTWARDS VANE; QUAD LEFTWARDS
   ARROW; QUAD RIGHTWARDS ARROW; CIRCLE BACKSLASH; DOWN TACK UNDERBAR; DELTA STILE; QUAD DOWN
   CARET; QUAD DELTA; DOWN TACK JOT; UPWARDS VANE; QUAD UPWARDS ARROW; UP TACK OVERBAR; DEL STILE;
   QUAD UP CARET; QUAD DEL; UP TACK JOT; DOWNWARDS VANE; QUAD DOWNWARDS ARROW; QUOTE UNDERBAR;
   DELTA UNDERBAR; DIAMOND UNDERBAR; JOT UNDERBAR; CIRCLE UNDERBAR; UP SHOE JOT; QUOTE QUAD; CIRCLE
   STAR; QUAD COLON; UP TACK DIAERESIS; DEL DIAERESIS; STAR DIAERESIS; JOT DIAERESIS; CIRCLE
   DIAERESIS; DOWN SHOE STILE; LEFT SHOE STILE; TILDE DIAERESIS; GREATER-THAN DIAERESIS; COMMA BAR;
   DEL TILDE; ZILDE; STILE TILDE; SEMICOLON UNDERBAR; QUAD NOT EQUAL; QUAD QUESTION; DOWN CARET
   TILDE; UP CARET TILDE; IOTA; RHO; OMEGA; ALPHA UNDERBAR; EPSILON UNDERBAR; IOTA UNDERBAR; OMEGA
   UNDERBAR; ALPHA.
   237B: NOT CHECK MARK; RIGHT ANGLE WITH DOWNWARDS ZIGZAG ARROW; SHOULDERED OPEN BOX; BELL SYMBOL;
   VERTICAL LINE WITH MIDDLE DOT; INSERTION SYMBOL; CONTINUOUS UNDERLINE SYMBOL; DISCONTINUOUS
   UNDERLINE SYMBOL; EMPHASIS SYMBOL; COMPOSITION SYMBOL; WHITE SQUARE WITH CENTRE VERTICAL LINE;
   ENTER SYMBOL; ALTERNATIVE KEY SYMBOL; HELM SYMBOL; CIRCLED HORIZONTAL BAR WITH NOTCH; CIRCLED
   TRIANGLE DOWN; BROKEN CIRCLE WITH NORTHWEST ARROW; UNDO SYMBOL; MONOSTABLE SYMBOL; HYSTERESIS
   SYMBOL.
   238F OPEN-CIRCUIT-OUTPUT: H-TYPE SYMBOL; L-TYPE SYMBOL.
   2391: PASSIVE-PULL-DOWN-OUTPUT SYMBOL; PASSIVE-PULL-UP-OUTPUT SYMBOL; DIRECT CURRENT SYMBOL FORM
   TWO; SOFTWARE-FUNCTION SYMBOL; APL FUNCTIONAL SYMBOL QUAD; DECIMAL SEPARATOR KEY SYMBOL;
   PREVIOUS PAGE; NEXT PAGE; PRINT SCREEN SYMBOL; CLEAR SCREEN SYMBOL.
   239B LEFT PARENTHESIS: UPPER HOOK; EXTENSION; LOWER HOOK.
   239E RIGHT PARENTHESIS: UPPER HOOK; EXTENSION; LOWER HOOK.
   23A1 LEFT SQUARE BRACKET: UPPER CORNER; EXTENSION; LOWER CORNER.
   23A4 RIGHT SQUARE BRACKET: UPPER CORNER; EXTENSION; LOWER CORNER.
   23A7 LEFT CURLY BRACKET: UPPER HOOK; MIDDLE PIECE; LOWER HOOK.
   23AA: CURLY BRACKET EXTENSION.
   23AB RIGHT CURLY BRACKET: UPPER HOOK; MIDDLE PIECE; LOWER HOOK.
   23AE: INTEGRAL EXTENSION; HORIZONTAL LINE EXTENSION; UPPER LEFT OR LOWER RIGHT CURLY BRACKET
   SECTION; UPPER RIGHT OR LOWER LEFT CURLY BRACKET SECTION.
   23B2 SUMMATION: TOP; BOTTOM.
   23B4: TOP SQUARE BRACKET.
   23B5 BOTTOM SQUARE: BRACKET; BRACKET OVER TOP SQUARE BRACKET.
   23B7: RADICAL SYMBOL BOTTOM; LEFT VERTICAL BOX LINE; RIGHT VERTICAL BOX LINE.
   23BA HORIZONTAL SCAN: LINE-1; LINE-3; LINE-7; LINE-9.
   23BE DENTISTRY SYMBOL LIGHT: VERTICAL AND TOP RIGHT; VERTICAL AND BOTTOM RIGHT; VERTICAL WITH
   CIRCLE; DOWN AND HORIZONTAL WITH CIRCLE; UP AND HORIZONTAL WITH CIRCLE; VERTICAL WITH TRIANGLE;
   DOWN AND HORIZONTAL WITH TRIANGLE; UP AND HORIZONTAL WITH TRIANGLE; VERTICAL AND WAVE; DOWN AND
   HORIZONTAL WITH WAVE; UP AND HORIZONTAL WITH WAVE; DOWN AND HORIZONTAL; UP AND HORIZONTAL;
   VERTICAL AND TOP LEFT; VERTICAL AND BOTTOM LEFT.
   23CD: SQUARE FOOT; RETURN SYMBOL; EJECT SYMBOL; VERTICAL LINE EXTENSION.
   23D1 METRICAL: BREVE; LONG OVER SHORT; SHORT OVER LONG; LONG OVER TWO SHORTS; TWO SHORTS OVER
   LONG; TWO SHORTS JOINED; TRISEME; TETRASEME; PENTASEME.
   23DA: EARTH GROUND; FUSE; TOP PARENTHESIS.
   23DD+ BOTTOM: PARENTHESIS; CURLY BRACKET; TORTOISE SHELL BRACKET.
   23DE: TOP CURLY BRACKET.
   23E0: TOP TORTOISE SHELL BRACKET.
   23E2: WHITE TRAPEZIUM; BENZENE RING WITH CIRCLE; STRAIGHTNESS; FLATNESS; AC CURRENT; ELECTRICAL
   INTERSECTION; DECIMAL EXPONENT SYMBOL.
   23E9 BLACK: RIGHT-POINTING DOUBLE TRIANGLE; LEFT-POINTING DOUBLE TRIANGLE; UP-POINTING DOUBLE
   TRIANGLE; DOWN-POINTING DOUBLE TRIANGLE; RIGHT-POINTING DOUBLE TRIANGLE WITH VERTICAL BAR;
   LEFT-POINTING DOUBLE TRIANGLE WITH VERTICAL BAR; RIGHT-POINTING TRIANGLE WITH DOUBLE VERTICAL
   BAR.
   23F0: ALARM CLOCK; STOPWATCH; TIMER CLOCK; HOURGLASS WITH FLOWING SAND.
   23F4 BLACK MEDIUM: LEFT-POINTING TRIANGLE; RIGHT-POINTING TRIANGLE; UP-POINTING TRIANGLE;
   DOWN-POINTING TRIANGLE.
   23F8: DOUBLE VERTICAL BAR; BLACK SQUARE FOR STOP; BLACK CIRCLE FOR RECORD.
   23FB POWER: SYMBOL; ON-OFF SYMBOL; ON SYMBOL; SLEEP SYMBOL.
   23FF: OBSERVER EYE SYMBOL.
   2400 SYMBOL FOR: NULL; START OF HEADING; START OF TEXT; END OF TEXT; END OF TRANSMISSION;
   ENQUIRY; ACKNOWLEDGE; BELL; BACKSPACE; HORIZONTAL TABULATION; LINE FEED; VERTICAL TABULATION;
   FORM FEED; CARRIAGE RETURN; SHIFT OUT; SHIFT IN; DATA LINK ESCAPE; DEVICE CONTROL ONE; DEVICE
   CONTROL TWO; DEVICE CONTROL THREE; DEVICE CONTROL FOUR; NEGATIVE ACKNOWLEDGE; SYNCHRONOUS IDLE;
   END OF TRANSMISSION BLOCK; CANCEL; END OF MEDIUM; SUBSTITUTE; ESCAPE; FILE SEPARATOR; GROUP
   SEPARATOR; RECORD SEPARATOR; UNIT SEPARATOR; SPACE; DELETE.
   2422: BLANK SYMBOL; OPEN BOX.
   2424 SYMBOL FOR: NEWLINE; DELETE FORM TWO; SUBSTITUTE FORM TWO.
   2460 CIRCLED: DIGIT ONE; DIGIT TWO; DIGIT THREE; DIGIT FOUR; DIGIT FIVE; DIGIT SIX; DIGIT SEVEN;
   DIGIT EIGHT; DIGIT NINE; NUMBER TEN; NUMBER ELEVEN; NUMBER TWELVE; NUMBER THIRTEEN; NUMBER
   FOURTEEN; NUMBER FIFTEEN; NUMBER SIXTEEN; NUMBER SEVENTEEN; NUMBER EIGHTEEN; NUMBER NINETEEN;
   NUMBER TWENTY.
   2474 PARENTHESIZED: DIGIT ONE; DIGIT TWO; DIGIT THREE; DIGIT FOUR; DIGIT FIVE; DIGIT SIX; DIGIT
   SEVEN; DIGIT EIGHT; DIGIT NINE; NUMBER TEN; NUMBER ELEVEN; NUMBER TWELVE; NUMBER THIRTEEN;
   NUMBER FOURTEEN; NUMBER FIFTEEN; NUMBER SIXTEEN; NUMBER SEVENTEEN; NUMBER EIGHTEEN; NUMBER
   NINETEEN; NUMBER TWENTY.
   2488 DIGIT: ONE FULL STOP; TWO FULL STOP; THREE FULL STOP; FOUR FULL STOP; FIVE FULL STOP; SIX
   FULL STOP; SEVEN FULL STOP; EIGHT FULL STOP; NINE FULL STOP.
   2491 NUMBER: TEN FULL STOP; ELEVEN FULL STOP; TWELVE FULL STOP; THIRTEEN FULL STOP; FOURTEEN
   FULL STOP; FIFTEEN FULL STOP; SIXTEEN FULL STOP; SEVENTEEN FULL STOP; EIGHTEEN FULL STOP;
   NINETEEN FULL STOP; TWENTY FULL STOP.
   249C PARENTHESIZED LATIN SMALL LETTER: A; B; C; D; E; F; G; H; I; J; K; L; M; N; O; P; Q; R; S;
   T; U; V; W; X; Y; Z.
   24B6 CIRCLED LATIN CAPITAL LETTER: A; B; C; D; E; F; G; H; I; J; K; L; M; N; O; P; Q; R; S; T;
   U; V; W; X; Y; Z.
   24D0 CIRCLED LATIN SMALL LETTER: A; B; C; D; E; F; G; H; I; J; K; L; M; N; O; P; Q; R; S; T; U;
   V; W; X; Y; Z.
   24EA: CIRCLED DIGIT ZERO.
   24EB NEGATIVE CIRCLED NUMBER: ELEVEN; TWELVE; THIRTEEN; FOURTEEN; FIFTEEN; SIXTEEN; SEVENTEEN;
   EIGHTEEN; NINETEEN; TWENTY.
   24F5 DOUBLE CIRCLED DIGIT: ONE; TWO; THREE; FOUR; FIVE; SIX; SEVEN; EIGHT; NINE.
   24FE: DOUBLE CIRCLED NUMBER TEN; NEGATIVE CIRCLED DIGIT ZERO.
   2500 BOX DRAWINGS: LIGHT HORIZONTAL; HEAVY HORIZONTAL; LIGHT VERTICAL; HEAVY VERTICAL; LIGHT
   TRIPLE DASH HORIZONTAL; HEAVY TRIPLE DASH HORIZONTAL; LIGHT TRIPLE DASH VERTICAL; HEAVY TRIPLE
   DASH VERTICAL; LIGHT QUADRUPLE DASH HORIZONTAL; HEAVY QUADRUPLE DASH HORIZONTAL; LIGHT QUADRUPLE
   DASH VERTICAL; HEAVY QUADRUPLE DASH VERTICAL; LIGHT DOWN AND RIGHT; DOWN LIGHT AND RIGHT HEAVY;
   DOWN HEAVY AND RIGHT LIGHT; HEAVY DOWN AND RIGHT; LIGHT DOWN AND LEFT; DOWN LIGHT AND LEFT
   HEAVY; DOWN HEAVY AND LEFT LIGHT; HEAVY DOWN AND LEFT; LIGHT UP AND RIGHT; UP LIGHT AND RIGHT
   HEAVY; UP HEAVY AND RIGHT LIGHT; HEAVY UP AND RIGHT; LIGHT UP AND LEFT; UP LIGHT AND LEFT HEAVY;
   UP HEAVY AND LEFT LIGHT; HEAVY UP AND LEFT; LIGHT VERTICAL AND RIGHT; VERTICAL LIGHT AND RIGHT
   HEAVY; UP HEAVY AND RIGHT DOWN LIGHT; DOWN HEAVY AND RIGHT UP LIGHT; VERTICAL HEAVY AND RIGHT
   LIGHT; DOWN LIGHT AND RIGHT UP HEAVY; UP LIGHT AND RIGHT DOWN HEAVY; HEAVY VERTICAL AND RIGHT;
   LIGHT VERTICAL AND LEFT; VERTICAL LIGHT AND LEFT HEAVY; UP HEAVY AND LEFT DOWN LIGHT; DOWN HEAVY
   AND LEFT UP LIGHT; VERTICAL HEAVY AND LEFT LIGHT; DOWN LIGHT AND LEFT UP HEAVY; UP LIGHT AND
   LEFT DOWN HEAVY; HEAVY VERTICAL AND LEFT; LIGHT DOWN AND HORIZONTAL; LEFT HEAVY AND RIGHT DOWN
   LIGHT; RIGHT HEAVY AND LEFT DOWN LIGHT; DOWN LIGHT AND HORIZONTAL HEAVY; DOWN HEAVY AND
   HORIZONTAL LIGHT; RIGHT LIGHT AND LEFT DOWN HEAVY; LEFT LIGHT AND RIGHT DOWN HEAVY; HEAVY DOWN
   AND HORIZONTAL; LIGHT UP AND HORIZONTAL; LEFT HEAVY AND RIGHT UP LIGHT; RIGHT HEAVY AND LEFT UP
   LIGHT; UP LIGHT AND HORIZONTAL HEAVY; UP HEAVY AND HORIZONTAL LIGHT; RIGHT LIGHT AND LEFT UP
   HEAVY; LEFT LIGHT AND RIGHT UP HEAVY; HEAVY UP AND HORIZONTAL; LIGHT VERTICAL AND HORIZONTAL;
   LEFT HEAVY AND RIGHT VERTICAL LIGHT; RIGHT HEAVY AND LEFT VERTICAL LIGHT; VERTICAL LIGHT AND
   HORIZONTAL HEAVY; UP HEAVY AND DOWN HORIZONTAL LIGHT; DOWN HEAVY AND UP HORIZONTAL LIGHT;
   VERTICAL HEAVY AND HORIZONTAL LIGHT; LEFT UP HEAVY AND RIGHT DOWN LIGHT; RIGHT UP HEAVY AND LEFT
   DOWN LIGHT; LEFT DOWN HEAVY AND RIGHT UP LIGHT; RIGHT DOWN HEAVY AND LEFT UP LIGHT; DOWN LIGHT
   AND UP HORIZONTAL HEAVY; UP LIGHT AND DOWN HORIZONTAL HEAVY; RIGHT LIGHT AND LEFT VERTICAL
   HEAVY; LEFT LIGHT AND RIGHT VERTICAL HEAVY; HEAVY VERTICAL AND HORIZONTAL; LIGHT DOUBLE DASH
   HORIZONTAL; HEAVY DOUBLE DASH HORIZONTAL; LIGHT DOUBLE DASH VERTICAL; HEAVY DOUBLE DASH
   VERTICAL; DOUBLE HORIZONTAL; DOUBLE VERTICAL; DOWN SINGLE AND RIGHT DOUBLE; DOWN DOUBLE AND
   RIGHT SINGLE; DOUBLE DOWN AND RIGHT; DOWN SINGLE AND LEFT DOUBLE; DOWN DOUBLE AND LEFT SINGLE;
   DOUBLE DOWN AND LEFT; UP SINGLE AND RIGHT DOUBLE; UP DOUBLE AND RIGHT SINGLE; DOUBLE UP AND
   RIGHT; UP SINGLE AND LEFT DOUBLE; UP DOUBLE AND LEFT SINGLE; DOUBLE UP AND LEFT; VERTICAL SINGLE
   AND RIGHT DOUBLE; VERTICAL DOUBLE AND RIGHT SINGLE; DOUBLE VERTICAL AND RIGHT; VERTICAL SINGLE
   AND LEFT DOUBLE; VERTICAL DOUBLE AND LEFT SINGLE; DOUBLE VERTICAL AND LEFT; DOWN SINGLE AND
   HORIZONTAL DOUBLE; DOWN DOUBLE AND HORIZONTAL SINGLE; DOUBLE DOWN AND HORIZONTAL; UP SINGLE AND
   HORIZONTAL DOUBLE; UP DOUBLE AND HORIZONTAL SINGLE; DOUBLE UP AND HORIZONTAL; VERTICAL SINGLE
   AND HORIZONTAL DOUBLE; VERTICAL DOUBLE AND HORIZONTAL SINGLE; DOUBLE VERTICAL AND HORIZONTAL;
   LIGHT ARC DOWN AND RIGHT; LIGHT ARC DOWN AND LEFT; LIGHT ARC UP AND LEFT; LIGHT ARC UP AND
   RIGHT; LIGHT DIAGONAL UPPER RIGHT TO LOWER LEFT; LIGHT DIAGONAL UPPER LEFT TO LOWER RIGHT; LIGHT
   DIAGONAL CROSS; LIGHT LEFT; LIGHT UP; LIGHT RIGHT; LIGHT DOWN; HEAVY LEFT; HEAVY UP; HEAVY
   RIGHT; HEAVY DOWN; LIGHT LEFT AND HEAVY RIGHT; LIGHT UP AND HEAVY DOWN; HEAVY LEFT AND LIGHT
   RIGHT; HEAVY UP AND LIGHT DOWN.
   2580: UPPER HALF BLOCK.
   2581 LOWER: ONE EIGHTH BLOCK; ONE QUARTER BLOCK; THREE EIGHTHS BLOCK; HALF BLOCK; FIVE EIGHTHS
   BLOCK; THREE QUARTERS BLOCK; SEVEN EIGHTHS BLOCK.
   2588: FULL BLOCK.
   2589 LEFT: SEVEN EIGHTHS BLOCK; THREE QUARTERS BLOCK; FIVE EIGHTHS BLOCK; HALF BLOCK; THREE
   EIGHTHS BLOCK; ONE QUARTER BLOCK; ONE EIGHTH BLOCK.
   2590: RIGHT HALF BLOCK; LIGHT SHADE; MEDIUM SHADE; DARK SHADE; UPPER ONE EIGHTH BLOCK; RIGHT ONE
   EIGHTH BLOCK.
   2596 QUADRANT: LOWER LEFT; LOWER RIGHT; UPPER LEFT; UPPER LEFT AND LOWER LEFT AND LOWER RIGHT;
   UPPER LEFT AND LOWER RIGHT; UPPER LEFT AND UPPER RIGHT AND LOWER LEFT; UPPER LEFT AND UPPER
   RIGHT AND LOWER RIGHT; UPPER RIGHT; UPPER RIGHT AND LOWER LEFT; UPPER RIGHT AND LOWER LEFT AND
   LOWER RIGHT.
   25A0: BLACK SQUARE.
   25A1 WHITE: SQUARE; SQUARE WITH ROUNDED CORNERS; SQUARE CONTAINING BLACK SMALL SQUARE.
   25A4 SQUARE WITH: HORIZONTAL FILL; VERTICAL FILL; ORTHOGONAL CROSSHATCH FILL; UPPER LEFT TO
   LOWER RIGHT FILL; UPPER RIGHT TO LOWER LEFT FILL; DIAGONAL CROSSHATCH FILL.
   25AA+ BLACK: SMALL SQUARE; RECTANGLE; VERTICAL RECTANGLE; PARALLELOGRAM; UP-POINTING TRIANGLE;
   UP-POINTING SMALL TRIANGLE; RIGHT-POINTING TRIANGLE; RIGHT-POINTING SMALL TRIANGLE;
   RIGHT-POINTING POINTER; DOWN-POINTING TRIANGLE; DOWN-POINTING SMALL TRIANGLE; LEFT-POINTING
   TRIANGLE; LEFT-POINTING SMALL TRIANGLE; LEFT-POINTING POINTER; DIAMOND.
   25AB+ WHITE: SMALL SQUARE; RECTANGLE; VERTICAL RECTANGLE; PARALLELOGRAM; UP-POINTING TRIANGLE;
   UP-POINTING SMALL TRIANGLE; RIGHT-POINTING TRIANGLE; RIGHT-POINTING SMALL TRIANGLE;
   RIGHT-POINTING POINTER; DOWN-POINTING TRIANGLE; DOWN-POINTING SMALL TRIANGLE; LEFT-POINTING
   TRIANGLE; LEFT-POINTING SMALL TRIANGLE; LEFT-POINTING POINTER; DIAMOND.
   25C8: WHITE DIAMOND CONTAINING BLACK SMALL DIAMOND; FISHEYE; LOZENGE; WHITE CIRCLE; DOTTED
   CIRCLE; CIRCLE WITH VERTICAL FILL; BULLSEYE; BLACK CIRCLE.
   25D0 CIRCLE WITH: LEFT HALF BLACK; RIGHT HALF BLACK; LOWER HALF BLACK; UPPER HALF BLACK; UPPER
   RIGHT QUADRANT BLACK; ALL BUT UPPER LEFT QUADRANT BLACK.
   25D6: LEFT HALF BLACK CIRCLE; RIGHT HALF BLACK CIRCLE; INVERSE BULLET; INVERSE WHITE CIRCLE;
   UPPER HALF INVERSE WHITE CIRCLE; LOWER HALF INVERSE WHITE CIRCLE; UPPER LEFT QUADRANT CIRCULAR
   ARC; UPPER RIGHT QUADRANT CIRCULAR ARC; LOWER RIGHT QUADRANT CIRCULAR ARC; LOWER LEFT QUADRANT
   CIRCULAR ARC; UPPER HALF CIRCLE; LOWER HALF CIRCLE.
   25E2 BLACK: LOWER RIGHT TRIANGLE; LOWER LEFT TRIANGLE; UPPER LEFT TRIANGLE; UPPER RIGHT
   TRIANGLE.
   25E6: WHITE BULLET.
   25E7 SQUARE WITH: LEFT HALF BLACK; RIGHT HALF BLACK; UPPER LEFT DIAGONAL HALF BLACK; LOWER RIGHT
   DIAGONAL HALF BLACK.
   25EB: WHITE SQUARE WITH VERTICAL BISECTING LINE; WHITE UP-POINTING TRIANGLE WITH DOT.
   25ED UP-POINTING TRIANGLE WITH: LEFT HALF BLACK; RIGHT HALF BLACK.
   25EF: LARGE CIRCLE.
   25F0 WHITE SQUARE WITH: UPPER LEFT QUADRANT; LOWER LEFT QUADRANT; LOWER RIGHT QUADRANT; UPPER
   RIGHT QUADRANT.
   25F4 WHITE CIRCLE WITH: UPPER LEFT QUADRANT; LOWER LEFT QUADRANT; LOWER RIGHT QUADRANT; UPPER
   RIGHT QUADRANT.
   25F8: UPPER LEFT TRIANGLE; UPPER RIGHT TRIANGLE; LOWER LEFT TRIANGLE.
   25FB+ WHITE MEDIUM: SQUARE; SMALL SQUARE.
   25FC+ BLACK MEDIUM: SQUARE; SMALL SQUARE.
   25FF: LOWER RIGHT TRIANGLE; BLACK SUN WITH RAYS; CLOUD; UMBRELLA; SNOWMAN; COMET; BLACK STAR;
   WHITE STAR; LIGHTNING; THUNDERSTORM; SUN; ASCENDING NODE; DESCENDING NODE; CONJUNCTION;
   OPPOSITION; BLACK TELEPHONE; WHITE TELEPHONE.
   2610 BALLOT: BOX; BOX WITH CHECK; BOX WITH X.
   2613: SALTIRE; UMBRELLA WITH RAIN DROPS; HOT BEVERAGE; WHITE SHOGI PIECE; BLACK SHOGI PIECE;
   SHAMROCK; REVERSED ROTATED FLORAL HEART BULLET; BLACK LEFT POINTING INDEX; BLACK RIGHT POINTING
   INDEX.
   261C WHITE: LEFT POINTING INDEX; UP POINTING INDEX; RIGHT POINTING INDEX; DOWN POINTING INDEX.
   2620: SKULL AND CROSSBONES; CAUTION SIGN; RADIOACTIVE SIGN; BIOHAZARD SIGN; CADUCEUS; ANKH;
   ORTHODOX CROSS; CHI RHO.
   2628 CROSS OF: LORRAINE; JERUSALEM.
   262A: STAR AND CRESCENT; FARSI SYMBOL; ADI SHAKTI; HAMMER AND SICKLE; PEACE SYMBOL; YIN YANG.
   2630 TRIGRAM FOR: HEAVEN; LAKE; FIRE; THUNDER; WIND; WATER; MOUNTAIN; EARTH.
   2638: WHEEL OF DHARMA; WHITE FROWNING FACE; WHITE SMILING FACE; BLACK SMILING FACE; WHITE SUN
   WITH RAYS; FIRST QUARTER MOON; LAST QUARTER MOON; MERCURY; FEMALE SIGN; EARTH; MALE SIGN;
   JUPITER; SATURN; URANUS; NEPTUNE; PLUTO; ARIES; TAURUS; GEMINI; CANCER; LEO; VIRGO; LIBRA;
   SCORPIUS; SAGITTARIUS; CAPRICORN; AQUARIUS; PISCES.
   2654 WHITE CHESS: KING; QUEEN; ROOK; BISHOP; KNIGHT; PAWN.
   265A BLACK CHESS: KING; QUEEN; ROOK; BISHOP; KNIGHT; PAWN.
   2660: BLACK SPADE SUIT; WHITE HEART SUIT; WHITE DIAMOND SUIT; BLACK CLUB SUIT; WHITE SPADE SUIT;
   BLACK HEART SUIT; BLACK DIAMOND SUIT; WHITE CLUB SUIT; HOT SPRINGS; QUARTER NOTE; EIGHTH NOTE;
   BEAMED EIGHTH NOTES; BEAMED SIXTEENTH NOTES.
   266D MUSIC: FLAT SIGN; NATURAL SIGN; SHARP SIGN.
   2670: WEST SYRIAC CROSS; EAST SYRIAC CROSS; UNIVERSAL RECYCLING SYMBOL.
   2673 RECYCLING SYMBOL FOR: TYPE-1 PLASTICS; TYPE-2 PLASTICS; TYPE-3 PLASTICS; TYPE-4 PLASTICS;
   TYPE-5 PLASTICS; TYPE-6 PLASTICS; TYPE-7 PLASTICS; GENERIC MATERIALS.
   267B: BLACK UNIVERSAL RECYCLING SYMBOL; RECYCLED PAPER SYMBOL; PARTIALLY-RECYCLED PAPER SYMBOL;
   PERMANENT PAPER SIGN; WHEELCHAIR SYMBOL.
   2680 DIE: FACE-1; FACE-2; FACE-3; FACE-4; FACE-5; FACE-6.
   2686 WHITE CIRCLE WITH: DOT RIGHT; TWO DOTS.
   2688 BLACK CIRCLE WITH: WHITE DOT RIGHT; TWO WHITE DOTS.
   268A MONOGRAM FOR: YANG; YIN.
   268C DIGRAM FOR: GREATER YANG; LESSER YIN; LESSER YANG; GREATER YIN.
   2690: WHITE FLAG; BLACK FLAG; HAMMER AND PICK; ANCHOR; CROSSED SWORDS; STAFF OF AESCULAPIUS;
   SCALES; ALEMBIC; FLOWER; GEAR; STAFF OF HERMES; ATOM SYMBOL; FLEUR-DE-LIS; OUTLINED WHITE STAR.
   269E THREE LINES CONVERGING: RIGHT; LEFT.
   26A0: WARNING SIGN; HIGH VOLTAGE SIGN; DOUBLED FEMALE SIGN; DOUBLED MALE SIGN; INTERLOCKED
   FEMALE AND MALE SIGN.
   26A5 MALE: AND FEMALE SIGN; WITH STROKE SIGN; WITH STROKE AND MALE AND FEMALE SIGN.
   26A8: VERTICAL MALE WITH STROKE SIGN; HORIZONTAL MALE WITH STROKE SIGN.
   26AA MEDIUM: WHITE CIRCLE; BLACK CIRCLE; SMALL WHITE CIRCLE.
   26AD: MARRIAGE SYMBOL; DIVORCE SYMBOL; UNMARRIED PARTNERSHIP SYMBOL; COFFIN; FUNERAL URN;
   NEUTER; CERES; PALLAS; JUNO; VESTA; CHIRON; BLACK MOON LILITH; SEXTILE; SEMISEXTILE; QUINCUNX;
   SESQUIQUADRATE; SOCCER BALL; BASEBALL; SQUARED KEY.
   26C0 WHITE DRAUGHTS: MAN; KING.
   26C2 BLACK DRAUGHTS: MAN; KING.
   26C4: SNOWMAN WITHOUT SNOW; SUN BEHIND CLOUD; RAIN; BLACK SNOWMAN; THUNDER CLOUD AND RAIN;
   TURNED WHITE SHOGI PIECE; TURNED BLACK SHOGI PIECE; WHITE DIAMOND IN SQUARE; CROSSING LANES;
   DISABLED CAR; OPHIUCHUS; PICK; CAR SLIDING; HELMET WITH WHITE CROSS; CIRCLED CROSSING LANES;
   CHAINS; NO ENTRY; ALTERNATE ONE-WAY LEFT WAY TRAFFIC; BLACK TWO-WAY LEFT WAY TRAFFIC; WHITE
   TWO-WAY LEFT WAY TRAFFIC; BLACK LEFT LANE MERGE; WHITE LEFT LANE MERGE; DRIVE SLOW SIGN; HEAVY
   WHITE DOWN-POINTING TRIANGLE; LEFT CLOSED ENTRY; SQUARED SALTIRE; FALLING DIAGONAL IN WHITE
   CIRCLE IN BLACK SQUARE; BLACK TRUCK.
   26E0 RESTRICTED LEFT: ENTRY-1; ENTRY-2.
   26E2: ASTRONOMICAL SYMBOL FOR URANUS; HEAVY CIRCLE WITH STROKE AND TWO DOTS ABOVE; PENTAGRAM;
   RIGHT-HANDED INTERLACED PENTAGRAM; LEFT-HANDED INTERLACED PENTAGRAM; INVERTED PENTAGRAM; BLACK
   CROSS ON SHIELD; SHINTO SHRINE; CHURCH; CASTLE; HISTORIC SITE; GEAR WITHOUT HUB; GEAR WITH
   HANDLES; MAP SYMBOL FOR LIGHTHOUSE; MOUNTAIN; UMBRELLA ON GROUND; FOUNTAIN; FLAG IN HOLE; FERRY;
   SAILBOAT; SQUARE FOUR CORNERS; SKIER; ICE SKATE; PERSON WITH BALL; TENT; JAPANESE BANK SYMBOL;
   HEADSTONE GRAVEYARD SYMBOL; FUEL PUMP; CUP ON BLACK SQUARE; WHITE FLAG WITH HORIZONTAL MIDDLE
   BLACK STRIPE.
   2701: UPPER BLADE SCISSORS; BLACK SCISSORS; LOWER BLADE SCISSORS; WHITE SCISSORS; WHITE HEAVY
   CHECK MARK; TELEPHONE LOCATION SIGN; TAPE DRIVE; AIRPLANE; ENVELOPE; RAISED FIST; RAISED HAND;
   VICTORY HAND; WRITING HAND; LOWER RIGHT PENCIL; PENCIL; UPPER RIGHT PENCIL; WHITE NIB; BLACK
   NIB; CHECK MARK.
   2714+ HEAVY: CHECK MARK; MULTIPLICATION X; BALLOT X; GREEK CROSS; OPEN CENTRE CROSS.
   2715: MULTIPLICATION X.
   2717: BALLOT X.
   2719: OUTLINED GREEK CROSS.
   271B: OPEN CENTRE CROSS.
   271D: LATIN CROSS; SHADOWED WHITE LATIN CROSS; OUTLINED LATIN CROSS; MALTESE CROSS; STAR OF
   DAVID; FOUR TEARDROP-SPOKED ASTERISK; FOUR BALLOON-SPOKED ASTERISK; HEAVY FOUR BALLOON-SPOKED
   ASTERISK; FOUR CLUB-SPOKED ASTERISK; BLACK FOUR POINTED STAR; WHITE FOUR POINTED STAR; SPARKLES;
   STRESS OUTLINED WHITE STAR; CIRCLED WHITE STAR; OPEN CENTRE BLACK STAR; BLACK CENTRE WHITE STAR;
   OUTLINED BLACK STAR; HEAVY OUTLINED BLACK STAR; PINWHEEL STAR; SHADOWED WHITE STAR; HEAVY
   ASTERISK; OPEN CENTRE ASTERISK.
   2733 EIGHT: SPOKED ASTERISK; POINTED BLACK STAR; POINTED PINWHEEL STAR.
   2736: SIX POINTED BLACK STAR; EIGHT POINTED RECTILINEAR BLACK STAR; HEAVY EIGHT POINTED
   RECTILINEAR BLACK STAR; TWELVE POINTED BLACK STAR; SIXTEEN POINTED ASTERISK; TEARDROP-SPOKED
   ASTERISK; OPEN CENTRE TEARDROP-SPOKED ASTERISK; HEAVY TEARDROP-SPOKED ASTERISK; SIX PETALLED
   BLACK AND WHITE FLORETTE; BLACK FLORETTE; WHITE FLORETTE; EIGHT PETALLED OUTLINED BLACK
   FLORETTE; CIRCLED OPEN CENTRE EIGHT POINTED STAR; HEAVY TEARDROP-SPOKED PINWHEEL ASTERISK;
   SNOWFLAKE; TIGHT TRIFOLIATE SNOWFLAKE; HEAVY CHEVRON SNOWFLAKE; SPARKLE; HEAVY SPARKLE;
   BALLOON-SPOKED ASTERISK; EIGHT TEARDROP-SPOKED PROPELLER ASTERISK; HEAVY EIGHT TEARDROP-SPOKED
   PROPELLER ASTERISK; CROSS MARK; SHADOWED WHITE CIRCLE; NEGATIVE SQUARED CROSS MARK.
   274F+ LOWER RIGHT: DROP-SHADOWED WHITE SQUARE; SHADOWED WHITE SQUARE.
   2750+ UPPER RIGHT: DROP-SHADOWED WHITE SQUARE; SHADOWED WHITE SQUARE.
   2753: BLACK QUESTION MARK ORNAMENT; WHITE QUESTION MARK ORNAMENT; WHITE EXCLAMATION MARK
   ORNAMENT; BLACK DIAMOND MINUS WHITE X; HEAVY EXCLAMATION MARK SYMBOL; LIGHT VERTICAL BAR; MEDIUM
   VERTICAL BAR.
   275A HEAVY: VERTICAL BAR; SINGLE TURNED COMMA QUOTATION MARK ORNAMENT; SINGLE COMMA QUOTATION
   MARK ORNAMENT; DOUBLE TURNED COMMA QUOTATION MARK ORNAMENT; DOUBLE COMMA QUOTATION MARK
   ORNAMENT; LOW SINGLE COMMA QUOTATION MARK ORNAMENT; LOW DOUBLE COMMA QUOTATION MARK ORNAMENT.
   2761: CURVED STEM PARAGRAPH SIGN ORNAMENT.
   2762 HEAVY: EXCLAMATION MARK ORNAMENT; HEART EXCLAMATION MARK ORNAMENT; BLACK HEART.
   2765: ROTATED HEAVY BLACK HEART BULLET; FLORAL HEART; ROTATED FLORAL HEART BULLET.
   2768 MEDIUM: LEFT PARENTHESIS ORNAMENT; RIGHT PARENTHESIS ORNAMENT; FLATTENED LEFT PARENTHESIS
   ORNAMENT; FLATTENED RIGHT PARENTHESIS ORNAMENT; LEFT-POINTING ANGLE BRACKET ORNAMENT;
   RIGHT-POINTING ANGLE BRACKET ORNAMENT.
   276E+ HEAVY LEFT-POINTING ANGLE: QUOTATION MARK ORNAMENT; BRACKET ORNAMENT.
   276F+ HEAVY RIGHT-POINTING ANGLE: QUOTATION MARK ORNAMENT; BRACKET ORNAMENT.
   2772: LIGHT LEFT TORTOISE SHELL BRACKET ORNAMENT; LIGHT RIGHT TORTOISE SHELL BRACKET ORNAMENT;
   MEDIUM LEFT CURLY BRACKET ORNAMENT; MEDIUM RIGHT CURLY BRACKET ORNAMENT.
   2776 DINGBAT NEGATIVE CIRCLED DIGIT: ONE; TWO; THREE; FOUR; FIVE; SIX; SEVEN; EIGHT; NINE.
   277F DINGBAT: NEGATIVE CIRCLED NUMBER TEN; CIRCLED SANS-SERIF DIGIT ONE; CIRCLED SANS-SERIF
   DIGIT TWO; CIRCLED SANS-SERIF DIGIT THREE; CIRCLED SANS-SERIF DIGIT FOUR; CIRCLED SANS-SERIF
   DIGIT FIVE; CIRCLED SANS-SERIF DIGIT SIX; CIRCLED SANS-SERIF DIGIT SEVEN; CIRCLED SANS-SERIF
   DIGIT EIGHT; CIRCLED SANS-SERIF DIGIT NINE; CIRCLED SANS-SERIF NUMBER TEN; NEGATIVE CIRCLED
   SANS-SERIF DIGIT ONE; NEGATIVE CIRCLED SANS-SERIF DIGIT TWO; NEGATIVE CIRCLED SANS-SERIF DIGIT
   THREE; NEGATIVE CIRCLED SANS-SERIF DIGIT FOUR; NEGATIVE CIRCLED SANS-SERIF DIGIT FIVE; NEGATIVE
   CIRCLED SANS-SERIF DIGIT SIX; NEGATIVE CIRCLED SANS-SERIF DIGIT SEVEN; NEGATIVE CIRCLED
   SANS-SERIF DIGIT EIGHT; NEGATIVE CIRCLED SANS-SERIF DIGIT NINE; NEGATIVE CIRCLED SANS-SERIF
   NUMBER TEN.
   2794 HEAVY: WIDE-HEADED RIGHTWARDS ARROW; PLUS SIGN; MINUS SIGN; DIVISION SIGN; SOUTH EAST
   ARROW; RIGHTWARDS ARROW; NORTH EAST ARROW.
   279B: DRAFTING POINT RIGHTWARDS ARROW.
   279C+ HEAVY: ROUND-TIPPED RIGHTWARDS ARROW; TRIANGLE-HEADED RIGHTWARDS ARROW; DASHED
   TRIANGLE-HEADED RIGHTWARDS ARROW.
   279D: TRIANGLE-HEADED RIGHTWARDS ARROW.
   279F: DASHED TRIANGLE-HEADED RIGHTWARDS ARROW.
   27A1: BLACK RIGHTWARDS ARROW; THREE-D TOP-LIGHTED RIGHTWARDS ARROWHEAD; THREE-D BOTTOM-LIGHTED
   RIGHTWARDS ARROWHEAD; BLACK RIGHTWARDS ARROWHEAD.
   27A5 HEAVY BLACK CURVED: DOWNWARDS AND RIGHTWARDS ARROW; UPWARDS AND RIGHTWARDS ARROW.
   27A7: SQUAT BLACK RIGHTWARDS ARROW; HEAVY CONCAVE-POINTED BLACK RIGHTWARDS ARROW; RIGHT-SHADED
   WHITE RIGHTWARDS ARROW; LEFT-SHADED WHITE RIGHTWARDS ARROW; BACK-TILTED SHADOWED WHITE
   RIGHTWARDS ARROW; FRONT-TILTED SHADOWED WHITE RIGHTWARDS ARROW; HEAVY LOWER RIGHT-SHADOWED WHITE
   RIGHTWARDS ARROW; HEAVY UPPER RIGHT-SHADOWED WHITE RIGHTWARDS ARROW; NOTCHED LOWER
   RIGHT-SHADOWED WHITE RIGHTWARDS ARROW; CURLY LOOP; NOTCHED UPPER RIGHT-SHADOWED WHITE RIGHTWARDS
   ARROW; CIRCLED HEAVY WHITE RIGHTWARDS ARROW; WHITE-FEATHERED RIGHTWARDS ARROW.
   27B4 BLACK-FEATHERED: SOUTH EAST ARROW; RIGHTWARDS ARROW; NORTH EAST ARROW.
   27B7 HEAVY BLACK-FEATHERED: SOUTH EAST ARROW; RIGHTWARDS ARROW; NORTH EAST ARROW.
   27BA: TEARDROP-BARBED RIGHTWARDS ARROW; HEAVY TEARDROP-SHANKED RIGHTWARDS ARROW; WEDGE-TAILED
   RIGHTWARDS ARROW; HEAVY WEDGE-TAILED RIGHTWARDS ARROW; OPEN-OUTLINED RIGHTWARDS ARROW; DOUBLE
   CURLY LOOP.
   1F300: CYCLONE; FOGGY; CLOSED UMBRELLA; NIGHT WITH STARS; SUNRISE OVER MOUNTAINS; SUNRISE;
   CITYSCAPE AT DUSK; SUNSET OVER BUILDINGS; RAINBOW; BRIDGE AT NIGHT; WATER WAVE; VOLCANO; MILKY
   WAY.
   1F30D EARTH GLOBE: EUROPE-AFRICA; AMERICAS; ASIA-AUSTRALIA.
   1F310: GLOBE WITH MERIDIANS; NEW MOON SYMBOL; WAXING CRESCENT MOON SYMBOL; FIRST QUARTER MOON
   SYMBOL; WAXING GIBBOUS MOON SYMBOL; FULL MOON SYMBOL; WANING GIBBOUS MOON SYMBOL; LAST QUARTER
   MOON SYMBOL; WANING CRESCENT MOON SYMBOL; CRESCENT MOON; NEW MOON WITH FACE; FIRST QUARTER MOON
   WITH FACE; LAST QUARTER MOON WITH FACE; FULL MOON WITH FACE; SUN WITH FACE; GLOWING STAR;
   SHOOTING STAR; THERMOMETER; BLACK DROPLET.
   1F323 WHITE: SUN; SUN WITH SMALL CLOUD; SUN BEHIND CLOUD; SUN BEHIND CLOUD WITH RAIN.
   1F327 CLOUD WITH: RAIN; SNOW; LIGHTNING; TORNADO.
   1F32B: FOG; WIND BLOWING FACE; HOT DOG; TACO; BURRITO; CHESTNUT; SEEDLING; EVERGREEN TREE;
   DECIDUOUS TREE; PALM TREE; CACTUS; HOT PEPPER; TULIP; CHERRY BLOSSOM; ROSE; HIBISCUS; SUNFLOWER;
   BLOSSOM; EAR OF MAIZE; EAR OF RICE; HERB; FOUR LEAF CLOVER; MAPLE LEAF; FALLEN LEAF; LEAF
   FLUTTERING IN WIND; MUSHROOM; TOMATO; AUBERGINE; GRAPES; MELON; WATERMELON; TANGERINE; LEMON;
   BANANA; PINEAPPLE; RED APPLE; GREEN APPLE; PEAR; PEACH; CHERRIES; STRAWBERRY; HAMBURGER; SLICE
   OF PIZZA; MEAT ON BONE; POULTRY LEG; RICE CRACKER; RICE BALL; COOKED RICE; CURRY AND RICE;
   STEAMING BOWL; SPAGHETTI; BREAD; FRENCH FRIES; ROASTED SWEET POTATO; DANGO; ODEN; SUSHI; FRIED
   SHRIMP; FISH CAKE WITH SWIRL DESIGN; SOFT ICE CREAM; SHAVED ICE; ICE CREAM; DOUGHNUT; COOKIE;
   CHOCOLATE BAR; CANDY; LOLLIPOP; CUSTARD; HONEY POT; SHORTCAKE; BENTO BOX; POT OF FOOD; COOKING;
   FORK AND KNIFE; TEACUP WITHOUT HANDLE; SAKE BOTTLE AND CUP; WINE GLASS; COCKTAIL GLASS; TROPICAL
   DRINK; BEER MUG; CLINKING BEER MUGS; BABY BOTTLE; FORK AND KNIFE WITH PLATE; BOTTLE WITH POPPING
   CORK; POPCORN; RIBBON; WRAPPED PRESENT; BIRTHDAY CAKE; JACK-O-LANTERN; CHRISTMAS TREE; FATHER
   CHRISTMAS; FIREWORKS; FIREWORK SPARKLER; BALLOON; PARTY POPPER; CONFETTI BALL; TANABATA TREE;
   CROSSED FLAGS; PINE DECORATION; JAPANESE DOLLS; CARP STREAMER; WIND CHIME; MOON VIEWING
   CEREMONY; SCHOOL SATCHEL; GRADUATION CAP; HEART WITH TIP ON THE LEFT; BOUQUET OF FLOWERS;
   MILITARY MEDAL; REMINDER RIBBON; MUSICAL KEYBOARD WITH JACKS; STUDIO MICROPHONE; LEVEL SLIDER;
   CONTROL KNOBS; BEAMED ASCENDING MUSICAL NOTES; BEAMED DESCENDING MUSICAL NOTES; FILM FRAMES;
   ADMISSION TICKETS; CAROUSEL HORSE; FERRIS WHEEL; ROLLER COASTER; FISHING POLE AND FISH;
   MICROPHONE; MOVIE CAMERA; CINEMA; HEADPHONE; ARTIST PALETTE; TOP HAT; CIRCUS TENT; TICKET;
   CLAPPER BOARD; PERFORMING ARTS; VIDEO GAME; DIRECT HIT; SLOT MACHINE; BILLIARDS; GAME DIE;
   BOWLING; FLOWER PLAYING CARDS; MUSICAL NOTE; MULTIPLE MUSICAL NOTES; SAXOPHONE; GUITAR; MUSICAL
   KEYBOARD; TRUMPET; VIOLIN; MUSICAL SCORE; RUNNING SHIRT WITH SASH; TENNIS RACQUET AND BALL; SKI
   AND SKI BOOT; BASKETBALL AND HOOP; CHEQUERED FLAG; SNOWBOARDER; RUNNER; SURFER; SPORTS MEDAL;
   TROPHY; HORSE RACING; AMERICAN FOOTBALL; RUGBY FOOTBALL; SWIMMER; WEIGHT LIFTER; GOLFER; RACING
   MOTORCYCLE; RACING CAR; CRICKET BAT AND BALL; VOLLEYBALL; FIELD HOCKEY STICK AND BALL; ICE
   HOCKEY STICK AND PUCK; TABLE TENNIS PADDLE AND BALL; SNOW CAPPED MOUNTAIN; CAMPING; BEACH WITH
   UMBRELLA; BUILDING CONSTRUCTION; HOUSE BUILDINGS; CITYSCAPE; DERELICT HOUSE BUILDING; CLASSICAL
   BUILDING; DESERT; DESERT ISLAND; NATIONAL PARK; STADIUM; HOUSE BUILDING; HOUSE WITH GARDEN;
   OFFICE BUILDING; JAPANESE POST OFFICE; EUROPEAN POST OFFICE; HOSPITAL; BANK; AUTOMATED TELLER
   MACHINE; HOTEL; LOVE HOTEL; CONVENIENCE STORE; SCHOOL; DEPARTMENT STORE; FACTORY; IZAKAYA
   LANTERN; JAPANESE CASTLE; EUROPEAN CASTLE; WHITE PENNANT; BLACK PENNANT; WAVING WHITE FLAG;
   WAVING BLACK FLAG; ROSETTE; BLACK ROSETTE; LABEL; BADMINTON RACQUET AND SHUTTLECOCK; BOW AND
   ARROW; AMPHORA.
   1F3FB EMOJI MODIFIER FITZPATRICK: TYPE-1-2; TYPE-3; TYPE-4; TYPE-5; TYPE-6.
   1F400: RAT; MOUSE; OX; WATER BUFFALO; COW; TIGER; LEOPARD; RABBIT; CAT; DRAGON; CROCODILE;
   WHALE; SNAIL; SNAKE; HORSE; RAM; GOAT; SHEEP; MONKEY; ROOSTER; CHICKEN; DOG; PIG; BOAR;
   ELEPHANT; OCTOPUS; SPIRAL SHELL; BUG; ANT; HONEYBEE; LADY BEETLE; FISH; TROPICAL FISH; BLOWFISH;
   TURTLE; HATCHING CHICK; BABY CHICK; FRONT-FACING BABY CHICK; BIRD; PENGUIN; KOALA; POODLE;
   DROMEDARY CAMEL; BACTRIAN CAMEL; DOLPHIN; MOUSE FACE; COW FACE; TIGER FACE; RABBIT FACE; CAT
   FACE; DRAGON FACE; SPOUTING WHALE; HORSE FACE; MONKEY FACE; DOG FACE; PIG FACE; FROG FACE;
   HAMSTER FACE; WOLF FACE; BEAR FACE; PANDA FACE; PIG NOSE; PAW PRINTS; CHIPMUNK; EYES; EYE; EAR;
   NOSE; MOUTH; TONGUE.
   1F446 WHITE: UP POINTING BACKHAND INDEX; DOWN POINTING BACKHAND INDEX; LEFT POINTING BACKHAND
   INDEX; RIGHT POINTING BACKHAND INDEX.
   1F44A: FISTED HAND SIGN; WAVING HAND SIGN; OK HAND SIGN; THUMBS UP SIGN; THUMBS DOWN SIGN;
   CLAPPING HANDS SIGN; OPEN HANDS SIGN; CROWN; WOMANS HAT; EYEGLASSES; NECKTIE; T-SHIRT; JEANS;
   DRESS; KIMONO; BIKINI; WOMANS CLOTHES; PURSE; HANDBAG; POUCH; MANS SHOE; ATHLETIC SHOE;
   HIGH-HEELED SHOE; WOMANS SANDAL; WOMANS BOOTS; FOOTPRINTS; BUST IN SILHOUETTE; BUSTS IN
   SILHOUETTE; BOY; GIRL; MAN; WOMAN; FAMILY; MAN AND WOMAN HOLDING HANDS; TWO MEN HOLDING HANDS;
   TWO WOMEN HOLDING HANDS; POLICE OFFICER; WOMAN WITH BUNNY EARS; BRIDE WITH VEIL; PERSON WITH
   BLOND HAIR.
   1F472 MAN WITH: GUA PI MAO; TURBAN.
   1F474: OLDER MAN; OLDER WOMAN; BABY; CONSTRUCTION WORKER; PRINCESS.
   1F479 JAPANESE: OGRE; GOBLIN.
   1F47B: GHOST; BABY ANGEL; EXTRATERRESTRIAL ALIEN; ALIEN MONSTER; IMP; SKULL; INFORMATION DESK
   PERSON; GUARDSMAN; DANCER; LIPSTICK; NAIL POLISH; FACE MASSAGE; HAIRCUT; BARBER POLE; SYRINGE;
   PILL; KISS MARK; LOVE LETTER; RING; GEM STONE; KISS; BOUQUET; COUPLE WITH HEART; WEDDING;
   BEATING HEART; BROKEN HEART; TWO HEARTS; SPARKLING HEART; GROWING HEART; HEART WITH ARROW; BLUE
   HEART; GREEN HEART; YELLOW HEART; PURPLE HEART; HEART WITH RIBBON; REVOLVING HEARTS; HEART
   DECORATION; DIAMOND SHAPE WITH A DOT INSIDE; ELECTRIC LIGHT BULB; ANGER SYMBOL; BOMB; SLEEPING
   SYMBOL; COLLISION SYMBOL; SPLASHING SWEAT SYMBOL; DROPLET; DASH SYMBOL; PILE OF POO; FLEXED
   BICEPS; DIZZY SYMBOL; SPEECH BALLOON; THOUGHT BALLOON; WHITE FLOWER; HUNDRED POINTS SYMBOL;
   MONEY BAG; CURRENCY EXCHANGE; HEAVY DOLLAR SIGN; CREDIT CARD.
   1F4B4 BANKNOTE WITH: YEN SIGN; DOLLAR SIGN; EURO SIGN; POUND SIGN.
   1F4B8: MONEY WITH WINGS; CHART WITH UPWARDS TREND AND YEN SIGN; SEAT; PERSONAL COMPUTER;
   BRIEFCASE; MINIDISC; FLOPPY DISK; OPTICAL DISC; DVD; FILE FOLDER; OPEN FILE FOLDER; PAGE WITH
   CURL; PAGE FACING UP; CALENDAR; TEAR-OFF CALENDAR; CARD INDEX.
   1F4C8 CHART WITH: UPWARDS TREND; DOWNWARDS TREND.
   1F4CA: BAR CHART; CLIPBOARD; PUSHPIN; ROUND PUSHPIN; PAPERCLIP; STRAIGHT RULER; TRIANGULAR
   RULER; BOOKMARK TABS; LEDGER; NOTEBOOK; NOTEBOOK WITH DECORATIVE COVER; CLOSED BOOK; OPEN BOOK;
   GREEN BOOK; BLUE BOOK; ORANGE BOOK; BOOKS; NAME BADGE; SCROLL; MEMO; TELEPHONE RECEIVER; PAGER;
   FAX MACHINE; SATELLITE ANTENNA; PUBLIC ADDRESS LOUDSPEAKER; CHEERING MEGAPHONE; OUTBOX TRAY;
   INBOX TRAY; PACKAGE; E-MAIL SYMBOL; INCOMING ENVELOPE; ENVELOPE WITH DOWNWARDS ARROW ABOVE.
   1F4EA CLOSED MAILBOX WITH: LOWERED FLAG; RAISED FLAG.
   1F4EC OPEN MAILBOX WITH: RAISED FLAG; LOWERED FLAG.
   1F4EE: POSTBOX; POSTAL HORN; NEWSPAPER; MOBILE PHONE.
   1F4F2+ MOBILE PHONE: WITH RIGHTWARDS ARROW AT LEFT; OFF.
   1F4F3: VIBRATION MODE.
   1F4F5: NO MOBILE PHONES; ANTENNA WITH BARS; CAMERA; CAMERA WITH FLASH; VIDEO CAMERA; TELEVISION;
   RADIO; VIDEOCASSETTE; FILM PROJECTOR; PORTABLE STEREO; PRAYER BEADS; TWISTED RIGHTWARDS ARROWS.
   1F501 CLOCKWISE RIGHTWARDS AND LEFTWARDS OPEN CIRCLE: ARROWS; ARROWS WITH CIRCLED ONE OVERLAY.
   1F503: CLOCKWISE DOWNWARDS AND UPWARDS OPEN CIRCLE ARROWS; ANTICLOCKWISE DOWNWARDS AND UPWARDS
   OPEN CIRCLE ARROWS; LOW BRIGHTNESS SYMBOL; HIGH BRIGHTNESS SYMBOL.
   1F507+ SPEAKER WITH: CANCELLATION STROKE; ONE SOUND WAVE.
   1F508: SPEAKER.
   1F50A: SPEAKER WITH THREE SOUND WAVES; BATTERY; ELECTRIC PLUG; LEFT-POINTING MAGNIFYING GLASS;
   RIGHT-POINTING MAGNIFYING GLASS; LOCK WITH INK PEN; CLOSED LOCK WITH KEY; KEY; LOCK; OPEN LOCK;
   BELL; BELL WITH CANCELLATION STROKE; BOOKMARK; LINK SYMBOL; RADIO BUTTON; BACK WITH LEFTWARDS
   ARROW ABOVE; END WITH LEFTWARDS ARROW ABOVE; ON WITH EXCLAMATION MARK WITH LEFT RIGHT ARROW
   ABOVE; SOON WITH RIGHTWARDS ARROW ABOVE; TOP WITH UPWARDS ARROW ABOVE; NO ONE UNDER EIGHTEEN
   SYMBOL; KEYCAP TEN.
   1F520 INPUT SYMBOL FOR: LATIN CAPITAL LETTERS; LATIN SMALL LETTERS; NUMBERS; SYMBOLS; LATIN
   LETTERS.
   1F525: FIRE; ELECTRIC TORCH; WRENCH; HAMMER; NUT AND BOLT; HOCHO; PISTOL; MICROSCOPE; TELESCOPE;
   CRYSTAL BALL; SIX POINTED STAR WITH MIDDLE DOT; JAPANESE SYMBOL FOR BEGINNER; TRIDENT EMBLEM;
   BLACK SQUARE BUTTON; WHITE SQUARE BUTTON.
   1F534 LARGE: RED CIRCLE; BLUE CIRCLE; ORANGE DIAMOND; BLUE DIAMOND.
   1F538: SMALL ORANGE DIAMOND; SMALL BLUE DIAMOND.
   1F53A+ UP-POINTING: RED TRIANGLE; SMALL RED TRIANGLE.
   1F53B+ DOWN-POINTING: RED TRIANGLE; SMALL RED TRIANGLE.
   1F53E: LOWER RIGHT SHADOWED WHITE CIRCLE; UPPER RIGHT SHADOWED WHITE CIRCLE; CIRCLED CROSS
   POMMEE; CROSS POMMEE WITH HALF-CIRCLE BELOW; CROSS POMMEE; NOTCHED LEFT SEMICIRCLE WITH THREE
   DOTS; NOTCHED RIGHT SEMICIRCLE WITH THREE DOTS; SYMBOL FOR MARKS CHAPTER; WHITE LATIN CROSS;
   HEAVY LATIN CROSS; CELTIC CROSS; OM SYMBOL; DOVE OF PEACE; KAABA; MOSQUE; SYNAGOGUE; MENORAH
   WITH NINE BRANCHES; BOWL OF HYGIEIA.
   1F550 CLOCK FACE: ONE OCLOCK; TWO OCLOCK; THREE OCLOCK; FOUR OCLOCK; FIVE OCLOCK; SIX OCLOCK;
   SEVEN OCLOCK; EIGHT OCLOCK; NINE OCLOCK; TEN OCLOCK; ELEVEN OCLOCK; TWELVE OCLOCK; ONE-THIRTY;
   TWO-THIRTY; THREE-THIRTY; FOUR-THIRTY; FIVE-THIRTY; SIX-THIRTY; SEVEN-THIRTY; EIGHT-THIRTY;
   NINE-THIRTY; TEN-THIRTY; ELEVEN-THIRTY; TWELVE-THIRTY.
   1F568 RIGHT: SPEAKER; SPEAKER WITH ONE SOUND WAVE; SPEAKER WITH THREE SOUND WAVES.
   1F56B: BULLHORN; BULLHORN WITH SOUND WAVES; RINGING BELL; BOOK; CANDLE; MANTELPIECE CLOCK; BLACK
   SKULL AND CROSSBONES; NO PIRACY; HOLE; MAN IN BUSINESS SUIT LEVITATING; SLEUTH OR SPY; DARK
   SUNGLASSES; SPIDER; SPIDER WEB; JOYSTICK; MAN DANCING; LEFT HAND TELEPHONE RECEIVER; TELEPHONE
   RECEIVER WITH PAGE; RIGHT HAND TELEPHONE RECEIVER; WHITE TOUCHTONE TELEPHONE; BLACK TOUCHTONE
   TELEPHONE; TELEPHONE ON TOP OF MODEM; CLAMSHELL MOBILE PHONE; BACK OF ENVELOPE; STAMPED
   ENVELOPE; ENVELOPE WITH LIGHTNING; FLYING ENVELOPE; PEN OVER STAMPED ENVELOPE; LINKED
   PAPERCLIPS; BLACK PUSHPIN.
   1F589 LOWER LEFT: PENCIL; BALLPOINT PEN; FOUNTAIN PEN; PAINTBRUSH; CRAYON.
   1F58E: LEFT WRITING HAND; TURNED OK HAND SIGN; RAISED HAND WITH FINGERS SPLAYED.
   1F591 REVERSED: RAISED HAND WITH FINGERS SPLAYED; THUMBS UP SIGN; THUMBS DOWN SIGN; VICTORY
   HAND; HAND WITH MIDDLE FINGER EXTENDED.
   1F596: RAISED HAND WITH PART BETWEEN MIDDLE AND RING FINGERS; WHITE DOWN POINTING LEFT HAND
   INDEX.
   1F598 SIDEWAYS: WHITE LEFT POINTING INDEX; WHITE RIGHT POINTING INDEX; BLACK LEFT POINTING
   INDEX; BLACK RIGHT POINTING INDEX.
   1F59C: BLACK LEFT POINTING BACKHAND INDEX; BLACK RIGHT POINTING BACKHAND INDEX.
   1F59E SIDEWAYS: WHITE UP POINTING INDEX; WHITE DOWN POINTING INDEX; BLACK UP POINTING INDEX;
   BLACK DOWN POINTING INDEX.
   1F5A2 BLACK: UP POINTING BACKHAND INDEX; DOWN POINTING BACKHAND INDEX; HEART.
   1F5A5: DESKTOP COMPUTER; KEYBOARD AND MOUSE; THREE NETWORKED COMPUTERS; PRINTER; POCKET
   CALCULATOR; BLACK HARD SHELL FLOPPY DISK; WHITE HARD SHELL FLOPPY DISK; SOFT SHELL FLOPPY DISK;
   TAPE CARTRIDGE; WIRED KEYBOARD; ONE BUTTON MOUSE; TWO BUTTON MOUSE; THREE BUTTON MOUSE;
   TRACKBALL; OLD PERSONAL COMPUTER; HARD DISK; SCREEN; PRINTER ICON; FAX ICON; OPTICAL DISC ICON.
   1F5B9 DOCUMENT WITH: TEXT; TEXT AND PICTURE; PICTURE.
   1F5BC FRAME WITH: PICTURE; TILES; AN X.
   1F5BF: BLACK FOLDER; FOLDER; OPEN FOLDER; CARD INDEX DIVIDERS; CARD FILE BOX; FILE CABINET.
   1F5C5 EMPTY: NOTE; NOTE PAGE; NOTE PAD.
   1F5C8: NOTE; NOTE PAGE; NOTE PAD.
   1F5CB EMPTY: DOCUMENT; PAGE; PAGES.
   1F5CE: DOCUMENT; PAGE; PAGES; WASTEBASKET; SPIRAL NOTE PAD; SPIRAL CALENDAR PAD; DESKTOP WINDOW;
   MINIMIZE; MAXIMIZE; OVERLAP; CLOCKWISE RIGHT AND LEFT SEMICIRCLE ARROWS; CANCELLATION X;
   INCREASE FONT SIZE SYMBOL; DECREASE FONT SIZE SYMBOL; COMPRESSION; OLD KEY; ROLLED-UP NEWSPAPER;
   PAGE WITH CIRCLED TEXT; STOCK CHART; DAGGER KNIFE; LIPS; SPEAKING HEAD IN SILHOUETTE.
   1F5E4 THREE RAYS: ABOVE; BELOW; LEFT; RIGHT.
   1F5E8: LEFT SPEECH BUBBLE; RIGHT SPEECH BUBBLE; TWO SPEECH BUBBLES; THREE SPEECH BUBBLES; LEFT
   THOUGHT BUBBLE; RIGHT THOUGHT BUBBLE; LEFT ANGER BUBBLE; RIGHT ANGER BUBBLE; MOOD BUBBLE.
   1F5F1 LIGHTNING: MOOD BUBBLE; MOOD.
   1F5F3+ BALLOT BOX WITH: BALLOT; SCRIPT X; BOLD SCRIPT X; BOLD CHECK.
   1F5F4: BALLOT SCRIPT X.
   1F5F6: BALLOT BOLD SCRIPT X.
   1F5F8: LIGHT CHECK MARK.
   1F5FA: WORLD MAP; MOUNT FUJI; TOKYO TOWER; STATUE OF LIBERTY; SILHOUETTE OF JAPAN; MOYAI.
   1F600 GRINNING: FACE; FACE WITH SMILING EYES.
   1F602: FACE WITH TEARS OF JOY.
   1F603 SMILING FACE WITH: OPEN MOUTH; OPEN MOUTH AND SMILING EYES; OPEN MOUTH AND COLD SWEAT;
   OPEN MOUTH AND TIGHTLY-CLOSED EYES; HALO; HORNS.
   1F609: WINKING FACE; SMILING FACE WITH SMILING EYES; FACE SAVOURING DELICIOUS FOOD; RELIEVED
   FACE.
   1F60D SMILING FACE WITH: HEART-SHAPED EYES; SUNGLASSES.
   1F60F: SMIRKING FACE; NEUTRAL FACE; EXPRESSIONLESS FACE; UNAMUSED FACE; FACE WITH COLD SWEAT;
   PENSIVE FACE; CONFUSED FACE; CONFOUNDED FACE; KISSING FACE; FACE THROWING A KISS.
   1F619 KISSING FACE WITH: SMILING EYES; CLOSED EYES.
   1F61B FACE WITH STUCK-OUT: TONGUE; TONGUE AND WINKING EYE; TONGUE AND TIGHTLY-CLOSED EYES.
   1F61E: DISAPPOINTED FACE; WORRIED FACE; ANGRY FACE; POUTING FACE; CRYING FACE; PERSEVERING FACE;
   FACE WITH LOOK OF TRIUMPH; DISAPPOINTED BUT RELIEVED FACE; FROWNING FACE WITH OPEN MOUTH;
   ANGUISHED FACE; FEARFUL FACE; WEARY FACE; SLEEPY FACE; TIRED FACE; GRIMACING FACE; LOUDLY CRYING
   FACE.
   1F62E+ FACE WITH OPEN: MOUTH; MOUTH AND COLD SWEAT.
   1F62F: HUSHED FACE.
   1F631: FACE SCREAMING IN FEAR; ASTONISHED FACE; FLUSHED FACE; SLEEPING FACE; DIZZY FACE; FACE
   WITHOUT MOUTH; FACE WITH MEDICAL MASK; GRINNING CAT FACE WITH SMILING EYES; CAT FACE WITH TEARS
   OF JOY.
   1F63A SMILING CAT FACE WITH: OPEN MOUTH; HEART-SHAPED EYES.
   1F63C: CAT FACE WITH WRY SMILE; KISSING CAT FACE WITH CLOSED EYES; POUTING CAT FACE; CRYING CAT
   FACE; WEARY CAT FACE.
   1F641 SLIGHTLY: FROWNING FACE; SMILING FACE.
   1F643: UPSIDE-DOWN FACE.
   1F644 FACE WITH: ROLLING EYES; NO GOOD GESTURE; OK GESTURE.
   1F647: PERSON BOWING DEEPLY; SEE-NO-EVIL MONKEY; HEAR-NO-EVIL MONKEY; SPEAK-NO-EVIL MONKEY;
   HAPPY PERSON RAISING ONE HAND.
   1F64C PERSON: RAISING BOTH HANDS IN CELEBRATION; FROWNING; WITH POUTING FACE; WITH FOLDED HANDS.
   1F680: ROCKET; HELICOPTER; STEAM LOCOMOTIVE; RAILWAY CAR.
   1F684 HIGH-SPEED: TRAIN; TRAIN WITH BULLET NOSE.
   1F686: TRAIN; METRO; LIGHT RAIL; STATION; TRAM; TRAM CAR; BUS; ONCOMING BUS; TROLLEYBUS; BUS
   STOP; MINIBUS; AMBULANCE; FIRE ENGINE; POLICE CAR.
   1F694+ ONCOMING: POLICE CAR; TAXI; AUTOMOBILE.
   1F695: TAXI.
   1F697: AUTOMOBILE.
   1F699: RECREATIONAL VEHICLE; DELIVERY TRUCK; ARTICULATED LORRY; TRACTOR; MONORAIL.
   1F69E+ MOUNTAIN: RAILWAY; CABLEWAY.
   1F69F: SUSPENSION RAILWAY.
   1F6A1: AERIAL TRAMWAY; SHIP; ROWBOAT; SPEEDBOAT; HORIZONTAL TRAFFIC LIGHT; VERTICAL TRAFFIC
   LIGHT; CONSTRUCTION SIGN; POLICE CARS REVOLVING LIGHT; TRIANGULAR FLAG ON POST; DOOR; NO ENTRY
   SIGN; SMOKING SYMBOL; NO SMOKING SYMBOL; PUT LITTER IN ITS PLACE SYMBOL; DO NOT LITTER SYMBOL;
   POTABLE WATER SYMBOL; NON-POTABLE WATER SYMBOL; BICYCLE; NO BICYCLES; BICYCLIST; MOUNTAIN
   BICYCLIST; PEDESTRIAN; NO PEDESTRIANS; CHILDREN CROSSING; MENS SYMBOL; WOMENS SYMBOL; RESTROOM;
   BABY SYMBOL; TOILET; WATER CLOSET; SHOWER; BATH; BATHTUB; PASSPORT CONTROL; CUSTOMS; BAGGAGE
   CLAIM; LEFT LUGGAGE; TRIANGLE WITH ROUNDED CORNERS; PROHIBITED SIGN; CIRCLED INFORMATION SOURCE;
   BOYS SYMBOL; GIRLS SYMBOL; COUCH AND LAMP; SLEEPING ACCOMMODATION; SHOPPING BAGS; BELLHOP BELL;
   BED; PLACE OF WORSHIP; OCTAGONAL SIGN; SHOPPING TROLLEY; STUPA; PAGODA; HINDU TEMPLE; HUT;
   ELEVATOR.
   1F6DD: PLAYGROUND SLIDE; WHEEL; RING BUOY; HAMMER AND WRENCH; SHIELD; OIL DRUM; MOTORWAY;
   RAILWAY TRACK; MOTOR BOAT.
   1F6E6 UP-POINTING: MILITARY AIRPLANE; AIRPLANE; SMALL AIRPLANE.
   1F6E9: SMALL AIRPLANE; NORTHEAST-POINTING AIRPLANE.
   1F6EB AIRPLANE: DEPARTURE; ARRIVING.
   1F6F0: SATELLITE; ONCOMING FIRE ENGINE; DIESEL LOCOMOTIVE; PASSENGER SHIP; SCOOTER; MOTOR
   SCOOTER; CANOE; SLED; FLYING SAUCER; SKATEBOARD; AUTO RICKSHAW; PICKUP TRUCK; ROLLER SKATE.
   1F900 CIRCLED CROSS: FORMEE WITH FOUR DOTS; FORMEE WITH TWO DOTS; FORMEE.
   1F903 LEFT HALF CIRCLE WITH: FOUR DOTS; THREE DOTS; TWO DOTS; DOT.
   1F907: LEFT HALF CIRCLE.
   1F908 DOWNWARD FACING: HOOK; NOTCHED HOOK; HOOK WITH DOT; NOTCHED HOOK WITH DOT.
   1F90C: PINCHED FINGERS; WHITE HEART; BROWN HEART; PINCHING HAND; ZIPPER-MOUTH FACE; MONEY-MOUTH
   FACE; FACE WITH THERMOMETER; NERD FACE; THINKING FACE; FACE WITH HEAD-BANDAGE; ROBOT FACE;
   HUGGING FACE; SIGN OF THE HORNS; CALL ME HAND; RAISED BACK OF HAND; LEFT-FACING FIST;
   RIGHT-FACING FIST; HANDSHAKE; HAND WITH INDEX AND MIDDLE FINGERS CROSSED; I LOVE YOU HAND SIGN;
   FACE WITH COWBOY HAT; CLOWN FACE; NAUSEATED FACE; ROLLING ON THE FLOOR LAUGHING; DROOLING FACE;
   LYING FACE; FACE PALM; SNEEZING FACE; FACE WITH ONE EYEBROW RAISED.
   1F929 GRINNING FACE WITH: STAR EYES; ONE LARGE AND ONE SMALL EYE.
   1F92B: FACE WITH FINGER COVERING CLOSED LIPS; SERIOUS FACE WITH SYMBOLS COVERING MOUTH; SMILING
   FACE WITH SMILING EYES AND HAND COVERING MOUTH; FACE WITH OPEN MOUTH VOMITING; SHOCKED FACE WITH
   EXPLODING HEAD; PREGNANT WOMAN; BREAST-FEEDING; PALMS UP TOGETHER; SELFIE; PRINCE; MAN IN
   TUXEDO; MOTHER CHRISTMAS; SHRUG; PERSON DOING CARTWHEEL; JUGGLING; FENCER; MODERN PENTATHLON;
   WRESTLERS; WATER POLO; HANDBALL; DIVING MASK; WILTED FLOWER; DRUM WITH DRUMSTICKS; CLINKING
   GLASSES; TUMBLER GLASS; SPOON; GOAL NET; RIFLE; FIRST PLACE MEDAL; SECOND PLACE MEDAL; THIRD
   PLACE MEDAL; BOXING GLOVE; MARTIAL ARTS UNIFORM; CURLING STONE; LACROSSE STICK AND BALL;
   SOFTBALL; FLYING DISC; CROISSANT; AVOCADO; CUCUMBER; BACON; POTATO; CARROT; BAGUETTE BREAD;
   GREEN SALAD; SHALLOW PAN OF FOOD; STUFFED FLATBREAD; EGG; GLASS OF MILK; PEANUTS; KIWIFRUIT;
   PANCAKES; DUMPLING; FORTUNE COOKIE; TAKEOUT BOX; CHOPSTICKS; BOWL WITH SPOON; CUP WITH STRAW;
   COCONUT; BROCCOLI; PIE; PRETZEL; CUT OF MEAT; SANDWICH; CANNED FOOD; LEAFY GREEN; MANGO; MOON
   CAKE; BAGEL.
   1F970+ SMILING FACE WITH: SMILING EYES AND THREE HEARTS; TEAR.
   1F971: YAWNING FACE.
   1F973 FACE WITH: PARTY HORN AND PARTY HAT; UNEVEN EYES AND WAVY MOUTH.
   1F975: OVERHEATED FACE; FREEZING FACE; NINJA; DISGUISED FACE; FACE HOLDING BACK TEARS; FACE WITH
   PLEADING EYES; SARI; LAB COAT; GOGGLES; HIKING BOOT; FLAT SHOE; CRAB; LION FACE; SCORPION;
   TURKEY; UNICORN FACE; EAGLE; DUCK; BAT; SHARK; OWL; FOX FACE; BUTTERFLY; DEER; GORILLA; LIZARD;
   RHINOCEROS; SHRIMP; SQUID; GIRAFFE FACE; ZEBRA FACE; HEDGEHOG; SAUROPOD; T-REX; CRICKET;
   KANGAROO; LLAMA; PEACOCK; HIPPOPOTAMUS; PARROT; RACCOON; LOBSTER; MOSQUITO; MICROBE; BADGER;
   SWAN; MAMMOTH; DODO; SLOTH; OTTER; ORANGUTAN; SKUNK; FLAMINGO; OYSTER; BEAVER; BISON; SEAL;
   GUIDE DOG; PROBING CANE.
   1F9B0 EMOJI COMPONENT: RED HAIR; CURLY HAIR; BALD; WHITE HAIR.
   1F9B4: BONE; LEG; FOOT; TOOTH; SUPERHERO; SUPERVILLAIN; SAFETY VEST; EAR WITH HEARING AID;
   MOTORIZED WHEELCHAIR; MANUAL WHEELCHAIR.
   1F9BE MECHANICAL: ARM; LEG.
   1F9C0: CHEESE WEDGE; CUPCAKE; SALT SHAKER; BEVERAGE BOX; GARLIC; ONION; FALAFEL; WAFFLE; BUTTER;
   MATE DRINK; ICE CUBE; BUBBLE TEA; TROLL; STANDING PERSON; KNEELING PERSON; DEAF PERSON; FACE
   WITH MONOCLE; ADULT; CHILD; OLDER ADULT; BEARDED PERSON.
   1F9D5 PERSON: WITH HEADSCARF; IN STEAMY ROOM; CLIMBING; IN LOTUS POSITION.
   1F9D9: MAGE; FAIRY; VAMPIRE; MERPERSON; ELF; GENIE; ZOMBIE; BRAIN; ORANGE HEART; BILLED CAP;
   SCARF; GLOVES; COAT; SOCKS; RED GIFT ENVELOPE; FIRECRACKER; JIGSAW PUZZLE PIECE; TEST TUBE;
   PETRI DISH; DNA DOUBLE HELIX; COMPASS; ABACUS; FIRE EXTINGUISHER; TOOLBOX; BRICK; MAGNET;
   LUGGAGE; LOTION BOTTLE; SPOOL OF THREAD; BALL OF YARN; SAFETY PIN; TEDDY BEAR; BROOM; BASKET;
   ROLL OF PAPER; BAR OF SOAP; SPONGE; RECEIPT; NAZAR AMULET."

end CommitRules.Regex
