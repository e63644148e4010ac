/-!
# CommitRules.Regex.LetterNames

Names of letters, digits, punctuation marks and controls. An entry is a code point in hexadecimal,
the words that the names of a run of characters begin with, and the rest of each name; a plus sign
behind the code point says that the run goes on with every second character.
-/

namespace CommitRules.Regex

/-- Names that controls and invisible characters go by. -/
def controlNames : String :=
  "0 NULL; 0 NUL; 1 START OF HEADING; 1 SOH; 2 START OF TEXT; 2 STX; 3 END OF TEXT; 3 ETX;
   4 END OF TRANSMISSION; 4 EOT; 5 ENQUIRY; 5 ENQ; 6 ACKNOWLEDGE; 6 ACK; 7 ALERT; 7 BEL;
   8 BACKSPACE; 8 BS; 9 CHARACTER TABULATION; 9 HORIZONTAL TABULATION; 9 HT; 9 TAB; A LINE FEED;
   A NEW LINE; A END OF LINE; A LF; A NL; A EOL; B LINE TABULATION; B VERTICAL TABULATION; B VT;
   C FORM FEED; C FF; D CARRIAGE RETURN; D CR; E SHIFT OUT; E LOCKING-SHIFT ONE; E SO; F SHIFT IN;
   F LOCKING-SHIFT ZERO; F SI; 10 DATA LINK ESCAPE; 10 DLE; 11 DEVICE CONTROL ONE; 11 DC1;
   12 DEVICE CONTROL TWO; 12 DC2; 13 DEVICE CONTROL THREE; 13 DC3; 14 DEVICE CONTROL FOUR; 14 DC4;
   15 NEGATIVE ACKNOWLEDGE; 15 NAK; 16 SYNCHRONOUS IDLE; 16 SYN; 17 END OF TRANSMISSION BLOCK;
   17 ETB; 18 CANCEL; 18 CAN; 19 END OF MEDIUM; 19 EOM; 1A SUBSTITUTE; 1A SUB; 1B ESCAPE; 1B ESC;
   1C INFORMATION SEPARATOR FOUR; 1C FILE SEPARATOR; 1C FS; 1D INFORMATION SEPARATOR THREE;
   1D GROUP SEPARATOR; 1D GS; 1E INFORMATION SEPARATOR TWO; 1E RECORD SEPARATOR; 1E RS;
   1F INFORMATION SEPARATOR ONE; 1F UNIT SEPARATOR; 1F US; 20 SP; 7F DELETE; 7F DEL;
   80 PADDING CHARACTER; 80 PAD; 84 INDEX; 84 IND; 85 NEXT LINE; 85 NEL;
   88 CHARACTER TABULATION SET; 88 HORIZONTAL TABULATION SET; 88 HTS; 8D REVERSE LINE FEED;
   8D REVERSE INDEX; 8D RI; 90 DEVICE CONTROL STRING; 90 DCS; 98 START OF STRING; 98 SOS;
   9B CONTROL SEQUENCE INTRODUCER; 9B CSI; 9C STRING TERMINATOR; 9C ST;
   9D OPERATING SYSTEM COMMAND; 9D OSC; 9E PRIVACY MESSAGE; 9E PM; 9F APPLICATION PROGRAM COMMAND;
   9F APC; A0 NBSP; AD SHY; 1A2 LATIN CAPITAL LETTER GHA; 1A3 LATIN SMALL LETTER GHA; 34F CGJ;
   200B ZWSP; 200C ZWNJ; 200D ZWJ; 200E LRM; 200F RLM; 202A LRE; 202B RLE; 202C PDF; 202D LRO;
   202E RLO; 202F NNBSP; 205F MMSP; 2060 WJ; 2066 LRI; 2067 RLI; 2068 FSI; 2069 PDI;
   2118 WEIERSTRASS ELLIPTIC FUNCTION; 2448 MICR ON US SYMBOL; 2449 MICR DASH SYMBOL; FE00 VS1;
   FE01 VS2; FE02 VS3; FE03 VS4; FE04 VS5; FE05 VS6; FE06 VS7; FE07 VS8; FE08 VS9; FE09 VS10;
   FE0A VS11; FE0B VS12; FE0C VS13; FE0D VS14; FE0E VS15; FE0F VS16; FEFF BYTE ORDER MARK;
   FEFF BOM; FEFF ZWNBSP"

/-- Names of letters, digits and punctuation marks. -/
def letterNames : String :=
  "20: SPACE; EXCLAMATION MARK; QUOTATION MARK; NUMBER SIGN; DOLLAR SIGN; PERCENT SIGN; AMPERSAND;
   APOSTROPHE; LEFT PARENTHESIS; RIGHT PARENTHESIS; ASTERISK; PLUS SIGN; COMMA; HYPHEN-MINUS; FULL
   STOP; SOLIDUS.
   30 DIGIT: ZERO; ONE; TWO; THREE; FOUR; FIVE; SIX; SEVEN; EIGHT; NINE.
   3A: COLON; SEMICOLON; LESS-THAN SIGN; EQUALS SIGN; GREATER-THAN SIGN; QUESTION MARK; COMMERCIAL
   AT.
   41 LATIN CAPITAL LETTER: A; B; C; D; E; F; G; H; I; J; K; L; M; N; O; P; Q; R; S; T; U; V; W; X;
   Y; Z.
   5B: LEFT SQUARE BRACKET; REVERSE SOLIDUS; RIGHT SQUARE BRACKET; CIRCUMFLEX ACCENT; LOW LINE;
   GRAVE ACCENT.
   61 LATIN SMALL LETTER: A; B; C; D; E; F; G; H; I; J; K; L; M; N; O; P; Q; R; S; T; U; V; W; X;
   Y; Z.
   7B: LEFT CURLY BRACKET; VERTICAL LINE; RIGHT CURLY BRACKET; TILDE.
   A0: NO-BREAK SPACE; INVERTED EXCLAMATION MARK; CENT SIGN; POUND SIGN; CURRENCY SIGN; YEN SIGN;
   BROKEN BAR; SECTION SIGN; DIAERESIS; COPYRIGHT SIGN; FEMININE ORDINAL INDICATOR; LEFT-POINTING
   DOUBLE ANGLE QUOTATION MARK; NOT SIGN; SOFT HYPHEN; REGISTERED SIGN; MACRON; DEGREE SIGN;
   PLUS-MINUS SIGN.
   B2 SUPERSCRIPT: TWO; THREE.
   B4: ACUTE ACCENT; MICRO SIGN; PILCROW SIGN; MIDDLE DOT; CEDILLA; SUPERSCRIPT ONE; MASCULINE
   ORDINAL INDICATOR; RIGHT-POINTING DOUBLE ANGLE QUOTATION MARK.
   BC VULGAR FRACTION: ONE QUARTER; ONE HALF; THREE QUARTERS.
   BF: INVERTED QUESTION MARK.
   C0+ LATIN: CAPITAL LETTER A WITH GRAVE; CAPITAL LETTER A WITH CIRCUMFLEX; CAPITAL LETTER A WITH
   DIAERESIS; CAPITAL LETTER AE; CAPITAL LETTER E WITH GRAVE; CAPITAL LETTER E WITH CIRCUMFLEX;
   CAPITAL LETTER I WITH GRAVE; CAPITAL LETTER I WITH CIRCUMFLEX; CAPITAL LETTER ETH; CAPITAL
   LETTER O WITH GRAVE; CAPITAL LETTER O WITH CIRCUMFLEX; CAPITAL LETTER O WITH DIAERESIS; CAPITAL
   LETTER O WITH STROKE; CAPITAL LETTER U WITH ACUTE; CAPITAL LETTER U WITH DIAERESIS; CAPITAL
   LETTER THORN; SMALL LETTER A WITH GRAVE; SMALL LETTER A WITH CIRCUMFLEX; SMALL LETTER A WITH
   DIAERESIS; SMALL LETTER AE; SMALL LETTER E WITH GRAVE; SMALL LETTER E WITH CIRCUMFLEX; SMALL
   LETTER I WITH GRAVE; SMALL LETTER I WITH CIRCUMFLEX; SMALL LETTER ETH; SMALL LETTER O WITH
   GRAVE; SMALL LETTER O WITH CIRCUMFLEX; SMALL LETTER O WITH DIAERESIS; SMALL LETTER O WITH
   STROKE; SMALL LETTER U WITH ACUTE; SMALL LETTER U WITH DIAERESIS; SMALL LETTER THORN; CAPITAL
   LETTER A WITH MACRON; CAPITAL LETTER A WITH BREVE; CAPITAL LETTER A WITH OGONEK; CAPITAL LETTER
   C WITH ACUTE; CAPITAL LETTER C WITH CIRCUMFLEX; CAPITAL LETTER C WITH DOT ABOVE; CAPITAL LETTER
   C WITH CARON; CAPITAL LETTER D WITH CARON; CAPITAL LETTER D WITH STROKE; CAPITAL LETTER E WITH
   MACRON; CAPITAL LETTER E WITH BREVE; CAPITAL LETTER E WITH DOT ABOVE; CAPITAL LETTER E WITH
   OGONEK; CAPITAL LETTER E WITH CARON; CAPITAL LETTER G WITH CIRCUMFLEX; CAPITAL LETTER G WITH
   BREVE; CAPITAL LETTER G WITH DOT ABOVE; CAPITAL LETTER G WITH CEDILLA; CAPITAL LETTER H WITH
   CIRCUMFLEX; CAPITAL LETTER H WITH STROKE; CAPITAL LETTER I WITH TILDE; CAPITAL LETTER I WITH
   MACRON; CAPITAL LETTER I WITH BREVE; CAPITAL LETTER I WITH OGONEK; CAPITAL LETTER I WITH DOT
   ABOVE; CAPITAL LIGATURE IJ; CAPITAL LETTER J WITH CIRCUMFLEX; CAPITAL LETTER K WITH CEDILLA;
   SMALL LETTER KRA; SMALL LETTER L WITH ACUTE; SMALL LETTER L WITH CEDILLA; SMALL LETTER L WITH
   CARON; SMALL LETTER L WITH MIDDLE DOT; SMALL LETTER L WITH STROKE; SMALL LETTER N WITH ACUTE;
   SMALL LETTER N WITH CEDILLA; SMALL LETTER N WITH CARON; CAPITAL LETTER ENG; CAPITAL LETTER O
   WITH MACRON; CAPITAL LETTER O WITH BREVE; CAPITAL LETTER O WITH DOUBLE ACUTE; CAPITAL LIGATURE
   OE; CAPITAL LETTER R WITH ACUTE; CAPITAL LETTER R WITH CEDILLA; CAPITAL LETTER R WITH CARON;
   CAPITAL LETTER S WITH ACUTE; CAPITAL LETTER S WITH CIRCUMFLEX; CAPITAL LETTER S WITH CEDILLA;
   CAPITAL LETTER S WITH CARON; CAPITAL LETTER T WITH CEDILLA; CAPITAL LETTER T WITH CARON; CAPITAL
   LETTER T WITH STROKE; CAPITAL LETTER U WITH TILDE; CAPITAL LETTER U WITH MACRON; CAPITAL LETTER
   U WITH BREVE; CAPITAL LETTER U WITH RING ABOVE; CAPITAL LETTER U WITH DOUBLE ACUTE; CAPITAL
   LETTER U WITH OGONEK; CAPITAL LETTER W WITH CIRCUMFLEX; CAPITAL LETTER Y WITH CIRCUMFLEX;
   CAPITAL LETTER Y WITH DIAERESIS; SMALL LETTER Z WITH ACUTE; SMALL LETTER Z WITH DOT ABOVE; SMALL
   LETTER Z WITH CARON; SMALL LETTER B WITH STROKE; CAPITAL LETTER B WITH TOPBAR; CAPITAL LETTER
   TONE SIX; CAPITAL LETTER OPEN O; SMALL LETTER C WITH HOOK; CAPITAL LETTER D WITH HOOK; SMALL
   LETTER D WITH TOPBAR; CAPITAL LETTER REVERSED E; CAPITAL LETTER OPEN E; SMALL LETTER F WITH
   HOOK; CAPITAL LETTER GAMMA; CAPITAL LETTER IOTA; CAPITAL LETTER K WITH HOOK; SMALL LETTER L WITH
   BAR; CAPITAL LETTER TURNED M; SMALL LETTER N WITH LONG RIGHT LEG; CAPITAL LETTER O WITH HORN;
   CAPITAL LETTER OI; CAPITAL LETTER P WITH HOOK; LETTER YR; SMALL LETTER TONE TWO; LETTER REVERSED
   ESH LOOP; CAPITAL LETTER T WITH HOOK; CAPITAL LETTER T WITH RETROFLEX HOOK; SMALL LETTER U WITH
   HORN; CAPITAL LETTER V WITH HOOK; SMALL LETTER Y WITH HOOK; SMALL LETTER Z WITH STROKE; CAPITAL
   LETTER EZH REVERSED; SMALL LETTER EZH WITH TAIL; CAPITAL LETTER TONE FIVE; LETTER INVERTED
   GLOTTAL STOP WITH STROKE; LETTER DENTAL CLICK; LETTER ALVEOLAR CLICK; CAPITAL LETTER DZ WITH
   CARON; SMALL LETTER DZ WITH CARON; CAPITAL LETTER L WITH SMALL LETTER J; CAPITAL LETTER NJ;
   SMALL LETTER NJ; SMALL LETTER A WITH CARON; SMALL LETTER I WITH CARON; SMALL LETTER O WITH
   CARON; SMALL LETTER U WITH CARON; SMALL LETTER U WITH DIAERESIS AND MACRON; SMALL LETTER U WITH
   DIAERESIS AND ACUTE; SMALL LETTER U WITH DIAERESIS AND CARON; SMALL LETTER U WITH DIAERESIS AND
   GRAVE; CAPITAL LETTER A WITH DIAERESIS AND MACRON; CAPITAL LETTER A WITH DOT ABOVE AND MACRON;
   CAPITAL LETTER AE WITH MACRON; CAPITAL LETTER G WITH STROKE; CAPITAL LETTER G WITH CARON;
   CAPITAL LETTER K WITH CARON; CAPITAL LETTER O WITH OGONEK; CAPITAL LETTER O WITH OGONEK AND
   MACRON; CAPITAL LETTER EZH WITH CARON; SMALL LETTER J WITH CARON; CAPITAL LETTER D WITH SMALL
   LETTER Z; CAPITAL LETTER G WITH ACUTE; CAPITAL LETTER HWAIR; CAPITAL LETTER N WITH GRAVE;
   CAPITAL LETTER A WITH RING ABOVE AND ACUTE; CAPITAL LETTER AE WITH ACUTE; CAPITAL LETTER O WITH
   STROKE AND ACUTE; CAPITAL LETTER A WITH DOUBLE GRAVE; CAPITAL LETTER A WITH INVERTED BREVE;
   CAPITAL LETTER E WITH DOUBLE GRAVE; CAPITAL LETTER E WITH INVERTED BREVE; CAPITAL LETTER I WITH
   DOUBLE GRAVE; CAPITAL LETTER I WITH INVERTED BREVE; CAPITAL LETTER O WITH DOUBLE GRAVE; CAPITAL
   LETTER O WITH INVERTED BREVE; CAPITAL LETTER R WITH DOUBLE GRAVE; CAPITAL LETTER R WITH INVERTED
   BREVE; CAPITAL LETTER U WITH DOUBLE GRAVE; CAPITAL LETTER U WITH INVERTED BREVE; CAPITAL LETTER
   S WITH COMMA BELOW; CAPITAL LETTER T WITH COMMA BELOW; CAPITAL LETTER YOGH; CAPITAL LETTER H
   WITH CARON; CAPITAL LETTER N WITH LONG RIGHT LEG; CAPITAL LETTER OU; CAPITAL LETTER Z WITH HOOK;
   CAPITAL LETTER A WITH DOT ABOVE; CAPITAL LETTER E WITH CEDILLA; CAPITAL LETTER O WITH DIAERESIS
   AND MACRON; CAPITAL LETTER O WITH TILDE AND MACRON; CAPITAL LETTER O WITH DOT ABOVE; CAPITAL
   LETTER O WITH DOT ABOVE AND MACRON; CAPITAL LETTER Y WITH MACRON; SMALL LETTER L WITH CURL;
   SMALL LETTER T WITH CURL; SMALL LETTER DB DIGRAPH; CAPITAL LETTER A WITH STROKE; SMALL LETTER C
   WITH STROKE; CAPITAL LETTER T WITH DIAGONAL STROKE; SMALL LETTER Z WITH SWASH TAIL; SMALL LETTER
   GLOTTAL STOP; CAPITAL LETTER U BAR; CAPITAL LETTER E WITH STROKE; CAPITAL LETTER J WITH STROKE;
   CAPITAL LETTER SMALL Q WITH HOOK TAIL; CAPITAL LETTER R WITH STROKE; CAPITAL LETTER Y WITH
   STROKE.
   C1+ LATIN CAPITAL LETTER: A WITH ACUTE; A WITH TILDE; A WITH RING ABOVE; C WITH CEDILLA; E WITH
   ACUTE; E WITH DIAERESIS; I WITH ACUTE; I WITH DIAERESIS; N WITH TILDE; O WITH ACUTE; O WITH
   TILDE.
   D7: MULTIPLICATION SIGN.
   D9+ LATIN: CAPITAL LETTER U WITH GRAVE; CAPITAL LETTER U WITH CIRCUMFLEX; CAPITAL LETTER Y WITH
   ACUTE; SMALL LETTER SHARP S; SMALL LETTER A WITH ACUTE; SMALL LETTER A WITH TILDE; SMALL LETTER
   A WITH RING ABOVE; SMALL LETTER C WITH CEDILLA; SMALL LETTER E WITH ACUTE; SMALL LETTER E WITH
   DIAERESIS; SMALL LETTER I WITH ACUTE; SMALL LETTER I WITH DIAERESIS; SMALL LETTER N WITH TILDE;
   SMALL LETTER O WITH ACUTE; SMALL LETTER O WITH TILDE.
   F7: DIVISION SIGN.
   F9+ LATIN: SMALL LETTER U WITH GRAVE; SMALL LETTER U WITH CIRCUMFLEX; SMALL LETTER Y WITH ACUTE;
   SMALL LETTER Y WITH DIAERESIS; SMALL LETTER A WITH MACRON; SMALL LETTER A WITH BREVE; SMALL
   LETTER A WITH OGONEK; SMALL LETTER C WITH ACUTE; SMALL LETTER C WITH CIRCUMFLEX; SMALL LETTER C
   WITH DOT ABOVE; SMALL LETTER C WITH CARON; SMALL LETTER D WITH CARON; SMALL LETTER D WITH
   STROKE; SMALL LETTER E WITH MACRON; SMALL LETTER E WITH BREVE; SMALL LETTER E WITH DOT ABOVE;
   SMALL LETTER E WITH OGONEK; SMALL LETTER E WITH CARON; SMALL LETTER G WITH CIRCUMFLEX; SMALL
   LETTER G WITH BREVE; SMALL LETTER G WITH DOT ABOVE; SMALL LETTER G WITH CEDILLA; SMALL LETTER H
   WITH CIRCUMFLEX; SMALL LETTER H WITH STROKE; SMALL LETTER I WITH TILDE; SMALL LETTER I WITH
   MACRON; SMALL LETTER I WITH BREVE; SMALL LETTER I WITH OGONEK; SMALL LETTER DOTLESS I; SMALL
   LIGATURE IJ; SMALL LETTER J WITH CIRCUMFLEX; SMALL LETTER K WITH CEDILLA; CAPITAL LETTER L WITH
   ACUTE; CAPITAL LETTER L WITH CEDILLA; CAPITAL LETTER L WITH CARON; CAPITAL LETTER L WITH MIDDLE
   DOT; CAPITAL LETTER L WITH STROKE; CAPITAL LETTER N WITH ACUTE; CAPITAL LETTER N WITH CEDILLA;
   CAPITAL LETTER N WITH CARON; SMALL LETTER N PRECEDED BY APOSTROPHE; SMALL LETTER ENG; SMALL
   LETTER O WITH MACRON; SMALL LETTER O WITH BREVE; SMALL LETTER O WITH DOUBLE ACUTE; SMALL
   LIGATURE OE; SMALL LETTER R WITH ACUTE; SMALL LETTER R WITH CEDILLA; SMALL LETTER R WITH CARON;
   SMALL LETTER S WITH ACUTE; SMALL LETTER S WITH CIRCUMFLEX; SMALL LETTER S WITH CEDILLA; SMALL
   LETTER S WITH CARON; SMALL LETTER T WITH CEDILLA; SMALL LETTER T WITH CARON; SMALL LETTER T WITH
   STROKE; SMALL LETTER U WITH TILDE; SMALL LETTER U WITH MACRON; SMALL LETTER U WITH BREVE; SMALL
   LETTER U WITH RING ABOVE; SMALL LETTER U WITH DOUBLE ACUTE; SMALL LETTER U WITH OGONEK; SMALL
   LETTER W WITH CIRCUMFLEX; SMALL LETTER Y WITH CIRCUMFLEX; CAPITAL LETTER Z WITH ACUTE; CAPITAL
   LETTER Z WITH DOT ABOVE; CAPITAL LETTER Z WITH CARON; SMALL LETTER LONG S; CAPITAL LETTER B WITH
   HOOK; SMALL LETTER B WITH TOPBAR; SMALL LETTER TONE SIX; CAPITAL LETTER C WITH HOOK; CAPITAL
   LETTER AFRICAN D; CAPITAL LETTER D WITH TOPBAR; SMALL LETTER TURNED DELTA; CAPITAL LETTER SCHWA;
   CAPITAL LETTER F WITH HOOK; CAPITAL LETTER G WITH HOOK; SMALL LETTER HV; CAPITAL LETTER I WITH
   STROKE; SMALL LETTER K WITH HOOK; SMALL LETTER LAMBDA WITH STROKE; CAPITAL LETTER N WITH LEFT
   HOOK; CAPITAL LETTER O WITH MIDDLE TILDE; SMALL LETTER O WITH HORN; SMALL LETTER OI; SMALL
   LETTER P WITH HOOK; CAPITAL LETTER TONE TWO; CAPITAL LETTER ESH; SMALL LETTER T WITH PALATAL
   HOOK; SMALL LETTER T WITH HOOK; CAPITAL LETTER U WITH HORN; CAPITAL LETTER UPSILON; CAPITAL
   LETTER Y WITH HOOK; CAPITAL LETTER Z WITH STROKE; CAPITAL LETTER EZH; SMALL LETTER EZH REVERSED;
   LETTER TWO WITH STROKE; SMALL LETTER TONE FIVE; LETTER WYNN; LETTER LATERAL CLICK; LETTER
   RETROFLEX CLICK; CAPITAL LETTER D WITH SMALL LETTER Z WITH CARON; CAPITAL LETTER LJ; SMALL
   LETTER LJ; CAPITAL LETTER N WITH SMALL LETTER J; CAPITAL LETTER A WITH CARON; CAPITAL LETTER I
   WITH CARON; CAPITAL LETTER O WITH CARON; CAPITAL LETTER U WITH CARON; CAPITAL LETTER U WITH
   DIAERESIS AND MACRON; CAPITAL LETTER U WITH DIAERESIS AND ACUTE; CAPITAL LETTER U WITH DIAERESIS
   AND CARON; CAPITAL LETTER U WITH DIAERESIS AND GRAVE; SMALL LETTER TURNED E; SMALL LETTER A WITH
   DIAERESIS AND MACRON; SMALL LETTER A WITH DOT ABOVE AND MACRON; SMALL LETTER AE WITH MACRON;
   SMALL LETTER G WITH STROKE; SMALL LETTER G WITH CARON; SMALL LETTER K WITH CARON; SMALL LETTER O
   WITH OGONEK; SMALL LETTER O WITH OGONEK AND MACRON; SMALL LETTER EZH WITH CARON; CAPITAL LETTER
   DZ; SMALL LETTER DZ; SMALL LETTER G WITH ACUTE; CAPITAL LETTER WYNN; SMALL LETTER N WITH GRAVE;
   SMALL LETTER A WITH RING ABOVE AND ACUTE; SMALL LETTER AE WITH ACUTE; SMALL LETTER O WITH STROKE
   AND ACUTE; SMALL LETTER A WITH DOUBLE GRAVE; SMALL LETTER A WITH INVERTED BREVE; SMALL LETTER E
   WITH DOUBLE GRAVE; SMALL LETTER E WITH INVERTED BREVE; SMALL LETTER I WITH DOUBLE GRAVE; SMALL
   LETTER I WITH INVERTED BREVE; SMALL LETTER O WITH DOUBLE GRAVE; SMALL LETTER O WITH INVERTED
   BREVE; SMALL LETTER R WITH DOUBLE GRAVE; SMALL LETTER R WITH INVERTED BREVE; SMALL LETTER U WITH
   DOUBLE GRAVE; SMALL LETTER U WITH INVERTED BREVE; SMALL LETTER S WITH COMMA BELOW; SMALL LETTER
   T WITH COMMA BELOW; SMALL LETTER YOGH; SMALL LETTER H WITH CARON; SMALL LETTER D WITH CURL;
   SMALL LETTER OU; SMALL LETTER Z WITH HOOK; SMALL LETTER A WITH DOT ABOVE; SMALL LETTER E WITH
   CEDILLA; SMALL LETTER O WITH DIAERESIS AND MACRON; SMALL LETTER O WITH TILDE AND MACRON; SMALL
   LETTER O WITH DOT ABOVE; SMALL LETTER O WITH DOT ABOVE AND MACRON; SMALL LETTER Y WITH MACRON;
   SMALL LETTER N WITH CURL; SMALL LETTER DOTLESS J; SMALL LETTER QP DIGRAPH; CAPITAL LETTER C WITH
   STROKE; CAPITAL LETTER L WITH BAR; SMALL LETTER S WITH SWASH TAIL; CAPITAL LETTER GLOTTAL STOP;
   CAPITAL LETTER B WITH STROKE; CAPITAL LETTER TURNED V; SMALL LETTER E WITH STROKE; SMALL LETTER
   J WITH STROKE; SMALL LETTER Q WITH HOOK TAIL; SMALL LETTER R WITH STROKE; SMALL LETTER Y WITH
   STROKE.
   2B0 MODIFIER LETTER: SMALL H; SMALL H WITH HOOK; SMALL J; SMALL R; SMALL TURNED R; SMALL TURNED
   R WITH HOOK; SMALL CAPITAL INVERTED R; SMALL W; SMALL Y; PRIME; DOUBLE PRIME; TURNED COMMA;
   APOSTROPHE; REVERSED COMMA; RIGHT HALF RING; LEFT HALF RING; GLOTTAL STOP; REVERSED GLOTTAL
   STOP; LEFT ARROWHEAD; RIGHT ARROWHEAD; UP ARROWHEAD; DOWN ARROWHEAD; CIRCUMFLEX ACCENT.
   2C7: CARON.
   2C8 MODIFIER LETTER: VERTICAL LINE; MACRON; ACUTE ACCENT; GRAVE ACCENT; LOW VERTICAL LINE; LOW
   MACRON; LOW GRAVE ACCENT; LOW ACUTE ACCENT; TRIANGULAR COLON; HALF TRIANGULAR COLON; CENTRED
   RIGHT HALF RING; CENTRED LEFT HALF RING; UP TACK; DOWN TACK; PLUS SIGN; MINUS SIGN.
   2D8: BREVE; DOT ABOVE; RING ABOVE; OGONEK; SMALL TILDE; DOUBLE ACUTE ACCENT.
   2DE MODIFIER LETTER: RHOTIC HOOK; CROSS ACCENT; SMALL GAMMA; SMALL L; SMALL S; SMALL X; SMALL
   REVERSED GLOTTAL STOP; EXTRA-HIGH TONE BAR; HIGH TONE BAR; MID TONE BAR; LOW TONE BAR; EXTRA-LOW
   TONE BAR; YIN DEPARTING TONE MARK; YANG DEPARTING TONE MARK; VOICING; UNASPIRATED; DOUBLE
   APOSTROPHE; LOW DOWN ARROWHEAD; LOW UP ARROWHEAD; LOW LEFT ARROWHEAD; LOW RIGHT ARROWHEAD; LOW
   RING; MIDDLE GRAVE ACCENT; MIDDLE DOUBLE GRAVE ACCENT; MIDDLE DOUBLE ACUTE ACCENT; LOW TILDE;
   RAISED COLON; BEGIN HIGH TONE; END HIGH TONE; BEGIN LOW TONE; END LOW TONE; SHELF; OPEN SHELF;
   LOW LEFT ARROW.
   300 COMBINING: GRAVE ACCENT; ACUTE ACCENT; CIRCUMFLEX ACCENT; TILDE; MACRON; OVERLINE; BREVE;
   DOT ABOVE; DIAERESIS; HOOK ABOVE; RING ABOVE; DOUBLE ACUTE ACCENT; CARON; VERTICAL LINE ABOVE;
   DOUBLE VERTICAL LINE ABOVE; DOUBLE GRAVE ACCENT; CANDRABINDU; INVERTED BREVE; TURNED COMMA
   ABOVE; COMMA ABOVE; REVERSED COMMA ABOVE; COMMA ABOVE RIGHT; GRAVE ACCENT BELOW; ACUTE ACCENT
   BELOW; LEFT TACK BELOW; RIGHT TACK BELOW; LEFT ANGLE ABOVE; HORN; LEFT HALF RING BELOW; UP TACK
   BELOW; DOWN TACK BELOW; PLUS SIGN BELOW; MINUS SIGN BELOW; PALATALIZED HOOK BELOW; RETROFLEX
   HOOK BELOW; DOT BELOW; DIAERESIS BELOW; RING BELOW; COMMA BELOW; CEDILLA; OGONEK; VERTICAL LINE
   BELOW; BRIDGE BELOW; INVERTED DOUBLE ARCH BELOW; CARON BELOW; CIRCUMFLEX ACCENT BELOW; BREVE
   BELOW; INVERTED BREVE BELOW; TILDE BELOW; MACRON BELOW; LOW LINE; DOUBLE LOW LINE; TILDE
   OVERLAY; SHORT STROKE OVERLAY; LONG STROKE OVERLAY; SHORT SOLIDUS OVERLAY; LONG SOLIDUS OVERLAY;
   RIGHT HALF RING BELOW; INVERTED BRIDGE BELOW; SQUARE BELOW; SEAGULL BELOW; X ABOVE; VERTICAL
   TILDE; DOUBLE OVERLINE; GRAVE TONE MARK; ACUTE TONE MARK; GREEK PERISPOMENI; GREEK KORONIS;
   GREEK DIALYTIKA TONOS; GREEK YPOGEGRAMMENI; BRIDGE ABOVE; EQUALS SIGN BELOW; DOUBLE VERTICAL
   LINE BELOW; LEFT ANGLE BELOW; NOT TILDE ABOVE; HOMOTHETIC ABOVE; ALMOST EQUAL TO ABOVE; LEFT
   RIGHT ARROW BELOW; UPWARDS ARROW BELOW; GRAPHEME JOINER; RIGHT ARROWHEAD ABOVE; LEFT HALF RING
   ABOVE; FERMATA; X BELOW; LEFT ARROWHEAD BELOW; RIGHT ARROWHEAD BELOW; RIGHT ARROWHEAD AND UP
   ARROWHEAD BELOW; RIGHT HALF RING ABOVE; DOT ABOVE RIGHT; ASTERISK BELOW; DOUBLE RING BELOW;
   ZIGZAG ABOVE; DOUBLE BREVE BELOW; DOUBLE BREVE; DOUBLE MACRON; DOUBLE MACRON BELOW; DOUBLE
   TILDE; DOUBLE INVERTED BREVE; DOUBLE RIGHTWARDS ARROW BELOW; LATIN SMALL LETTER A; LATIN SMALL
   LETTER E; LATIN SMALL LETTER I; LATIN SMALL LETTER O; LATIN SMALL LETTER U; LATIN SMALL LETTER
   C; LATIN SMALL LETTER D; LATIN SMALL LETTER H; LATIN SMALL LETTER M; LATIN SMALL LETTER R; LATIN
   SMALL LETTER T; LATIN SMALL LETTER V; LATIN SMALL LETTER X.
   370 GREEK: CAPITAL LETTER HETA; SMALL LETTER HETA; CAPITAL LETTER ARCHAIC SAMPI; SMALL LETTER
   ARCHAIC SAMPI; NUMERAL SIGN; LOWER NUMERAL SIGN; CAPITAL LETTER PAMPHYLIAN DIGAMMA; SMALL LETTER
   PAMPHYLIAN DIGAMMA.
   37A GREEK: YPOGEGRAMMENI; SMALL REVERSED LUNATE SIGMA SYMBOL; SMALL DOTTED LUNATE SIGMA SYMBOL;
   SMALL REVERSED DOTTED LUNATE SIGMA SYMBOL; QUESTION MARK; CAPITAL LETTER YOT.
   384+ GREEK: TONOS; CAPITAL LETTER ALPHA WITH TONOS; CAPITAL LETTER EPSILON WITH TONOS; CAPITAL
   LETTER IOTA WITH TONOS; CAPITAL LETTER OMICRON WITH TONOS; CAPITAL LETTER UPSILON WITH TONOS;
   SMALL LETTER IOTA WITH DIALYTIKA AND TONOS; CAPITAL LETTER BETA; CAPITAL LETTER DELTA; CAPITAL
   LETTER ZETA; CAPITAL LETTER THETA; CAPITAL LETTER KAPPA; CAPITAL LETTER MU; CAPITAL LETTER XI;
   CAPITAL LETTER PI.
   385+ GREEK: DIALYTIKA TONOS; ANO TELEIA; CAPITAL LETTER ETA WITH TONOS.
   38F+ GREEK CAPITAL LETTER: OMEGA WITH TONOS; ALPHA; GAMMA; EPSILON; ETA; IOTA; LAMDA; NU;
   OMICRON; RHO; SIGMA; UPSILON; CHI; OMEGA; UPSILON WITH DIALYTIKA.
   3A4+ GREEK: CAPITAL LETTER TAU; CAPITAL LETTER PHI; CAPITAL LETTER PSI; CAPITAL LETTER IOTA WITH
   DIALYTIKA; SMALL LETTER ALPHA WITH TONOS; SMALL LETTER ETA WITH TONOS; SMALL LETTER UPSILON WITH
   DIALYTIKA AND TONOS; SMALL LETTER BETA; SMALL LETTER DELTA; SMALL LETTER ZETA; SMALL LETTER
   THETA; SMALL LETTER KAPPA; SMALL LETTER MU; SMALL LETTER XI; SMALL LETTER PI; SMALL LETTER FINAL
   SIGMA; SMALL LETTER TAU; SMALL LETTER PHI; SMALL LETTER PSI; SMALL LETTER IOTA WITH DIALYTIKA;
   SMALL LETTER OMICRON WITH TONOS; SMALL LETTER OMEGA WITH TONOS; BETA SYMBOL; UPSILON WITH HOOK
   SYMBOL; UPSILON WITH DIAERESIS AND HOOK SYMBOL; PI SYMBOL; LETTER ARCHAIC KOPPA; LETTER STIGMA;
   LETTER DIGAMMA; LETTER KOPPA; LETTER SAMPI.
   3AD+ GREEK SMALL LETTER: EPSILON WITH TONOS; IOTA WITH TONOS; ALPHA; GAMMA; EPSILON; ETA; IOTA;
   LAMDA; NU; OMICRON; RHO; SIGMA; UPSILON; CHI; OMEGA; UPSILON WITH DIALYTIKA; UPSILON WITH TONOS.
   3CF+ GREEK: CAPITAL KAI SYMBOL; THETA SYMBOL; UPSILON WITH ACUTE AND HOOK SYMBOL; PHI SYMBOL;
   KAI SYMBOL; SMALL LETTER ARCHAIC KOPPA; SMALL LETTER STIGMA; SMALL LETTER DIGAMMA; SMALL LETTER
   KOPPA; SMALL LETTER SAMPI.
   3E2+ COPTIC CAPITAL LETTER: SHEI; FEI; KHEI; HORI; GANGIA; SHIMA; DEI.
   3E3+ COPTIC SMALL LETTER: SHEI; FEI; KHEI; HORI; GANGIA; SHIMA; DEI.
   3F0 GREEK: KAPPA SYMBOL; RHO SYMBOL; LUNATE SIGMA SYMBOL; LETTER YOT; CAPITAL THETA SYMBOL;
   LUNATE EPSILON SYMBOL; REVERSED LUNATE EPSILON SYMBOL; CAPITAL LETTER SHO; SMALL LETTER SHO;
   CAPITAL LUNATE SIGMA SYMBOL; CAPITAL LETTER SAN; SMALL LETTER SAN; RHO WITH STROKE SYMBOL;
   CAPITAL REVERSED LUNATE SIGMA SYMBOL; CAPITAL DOTTED LUNATE SIGMA SYMBOL; CAPITAL REVERSED
   DOTTED LUNATE SIGMA SYMBOL.
   400 CYRILLIC CAPITAL LETTER: IE WITH GRAVE; IO; DJE; GJE; UKRAINIAN IE; DZE;
   BYELORUSSIAN-UKRAINIAN I; YI; JE; LJE; NJE; TSHE; KJE; I WITH GRAVE; SHORT U; DZHE; A; BE; VE;
   GHE; DE; IE; ZHE; ZE; I; SHORT I; KA; EL; EM; EN; O; PE; ER; ES; TE; U; EF; HA; TSE; CHE; SHA;
   SHCHA; HARD SIGN; YERU; SOFT SIGN; E; YU; YA.
   430 CYRILLIC SMALL LETTER: A; BE; VE; GHE; DE; IE; ZHE; ZE; I; SHORT I; KA; EL; EM; EN; O; PE;
   ER; ES; TE; U; EF; HA; TSE; CHE; SHA; SHCHA; HARD SIGN; YERU; SOFT SIGN; E; YU; YA; IE WITH
   GRAVE; IO; DJE; GJE; UKRAINIAN IE; DZE; BYELORUSSIAN-UKRAINIAN I; YI; JE; LJE; NJE; TSHE; KJE; I
   WITH GRAVE; SHORT U; DZHE.
   5D0 HEBREW LETTER: ALEF; BET; GIMEL; DALET; HE; VAV; ZAYIN; HET; TET; YOD; FINAL KAF; KAF;
   LAMED; FINAL MEM; MEM; FINAL NUN; NUN; SAMEKH; AYIN; FINAL PE; PE; FINAL TSADI; TSADI; QOF;
   RESH; SHIN; TAV.
   2000: EN QUAD; EM QUAD; EN SPACE; EM SPACE; THREE-PER-EM SPACE; FOUR-PER-EM SPACE; SIX-PER-EM
   SPACE; FIGURE SPACE; PUNCTUATION SPACE; THIN SPACE; HAIR SPACE.
   200B ZERO WIDTH: SPACE; NON-JOINER; JOINER.
   200E: LEFT-TO-RIGHT MARK; RIGHT-TO-LEFT MARK; HYPHEN; NON-BREAKING HYPHEN; FIGURE DASH; EN DASH;
   EM DASH; HORIZONTAL BAR; DOUBLE VERTICAL LINE; DOUBLE LOW LINE; LEFT SINGLE QUOTATION MARK;
   RIGHT SINGLE QUOTATION MARK; SINGLE LOW-9 QUOTATION MARK; SINGLE HIGH-REVERSED-9 QUOTATION MARK;
   LEFT DOUBLE QUOTATION MARK; RIGHT DOUBLE QUOTATION MARK; DOUBLE LOW-9 QUOTATION MARK; DOUBLE
   HIGH-REVERSED-9 QUOTATION MARK; DAGGER; DOUBLE DAGGER; BULLET; TRIANGULAR BULLET; ONE DOT
   LEADER; TWO DOT LEADER; HORIZONTAL ELLIPSIS; HYPHENATION POINT; LINE SEPARATOR; PARAGRAPH
   SEPARATOR; LEFT-TO-RIGHT EMBEDDING; RIGHT-TO-LEFT EMBEDDING; POP DIRECTIONAL FORMATTING;
   LEFT-TO-RIGHT OVERRIDE; RIGHT-TO-LEFT OVERRIDE; NARROW NO-BREAK SPACE; PER MILLE SIGN; PER TEN
   THOUSAND SIGN; PRIME; DOUBLE PRIME; TRIPLE PRIME.
   2035 REVERSED: PRIME; DOUBLE PRIME; TRIPLE PRIME.
   2038: CARET; SINGLE LEFT-POINTING ANGLE QUOTATION MARK; SINGLE RIGHT-POINTING ANGLE QUOTATION
   MARK; REFERENCE MARK; DOUBLE EXCLAMATION MARK; INTERROBANG; OVERLINE; UNDERTIE; CHARACTER TIE;
   CARET INSERTION POINT; ASTERISM; HYPHEN BULLET; FRACTION SLASH; LEFT SQUARE BRACKET WITH QUILL;
   RIGHT SQUARE BRACKET WITH QUILL; DOUBLE QUESTION MARK; QUESTION EXCLAMATION MARK; EXCLAMATION
   QUESTION MARK; TIRONIAN SIGN ET; REVERSED PILCROW SIGN; BLACK LEFTWARDS BULLET; BLACK RIGHTWARDS
   BULLET; LOW ASTERISK; REVERSED SEMICOLON; CLOSE UP; TWO ASTERISKS ALIGNED VERTICALLY; COMMERCIAL
   MINUS SIGN; SWUNG DASH; INVERTED UNDERTIE; FLOWER PUNCTUATION MARK; THREE DOT PUNCTUATION;
   QUADRUPLE PRIME; FOUR DOT PUNCTUATION; FIVE DOT PUNCTUATION; TWO DOT PUNCTUATION; FOUR DOT MARK;
   DOTTED CROSS; TRICOLON; VERTICAL FOUR DOTS; MEDIUM MATHEMATICAL SPACE; WORD JOINER; FUNCTION
   APPLICATION.
   2062 INVISIBLE: TIMES; SEPARATOR; PLUS.
   2066: LEFT-TO-RIGHT ISOLATE; RIGHT-TO-LEFT ISOLATE; FIRST STRONG ISOLATE; POP DIRECTIONAL
   ISOLATE; INHIBIT SYMMETRIC SWAPPING.
   206B+ ACTIVATE: SYMMETRIC SWAPPING; ARABIC FORM SHAPING.
   206C: INHIBIT ARABIC FORM SHAPING.
   206E: NATIONAL DIGIT SHAPES; NOMINAL DIGIT SHAPES.
   2070 SUPERSCRIPT: ZERO; LATIN SMALL LETTER I.
   2074 SUPERSCRIPT: FOUR; FIVE; SIX; SEVEN; EIGHT; NINE; PLUS SIGN; MINUS; EQUALS SIGN; LEFT
   PARENTHESIS; RIGHT PARENTHESIS; LATIN SMALL LETTER N.
   2080 SUBSCRIPT: ZERO; ONE; TWO; THREE; FOUR; FIVE; SIX; SEVEN; EIGHT; NINE; PLUS SIGN; MINUS;
   EQUALS SIGN; LEFT PARENTHESIS; RIGHT PARENTHESIS.
   2090 LATIN SUBSCRIPT SMALL LETTER: A; E; O; X; SCHWA; H; K; L; M; N; P; S; T.
   20A0: EURO-CURRENCY SIGN; COLON SIGN; CRUZEIRO SIGN; FRENCH FRANC SIGN; LIRA SIGN; MILL SIGN;
   NAIRA SIGN; PESETA SIGN; RUPEE SIGN; WON SIGN; NEW SHEQEL SIGN; DONG SIGN; EURO SIGN; KIP SIGN;
   TUGRIK SIGN; DRACHMA SIGN; GERMAN PENNY SIGN; PESO SIGN; GUARANI SIGN; AUSTRAL SIGN; HRYVNIA
   SIGN; CEDI SIGN; LIVRE TOURNOIS SIGN; SPESMILO SIGN; TENGE SIGN; INDIAN RUPEE SIGN; TURKISH LIRA
   SIGN; NORDIC MARK SIGN; MANAT SIGN; RUBLE SIGN; LARI SIGN; BITCOIN SIGN; SOM SIGN.
   2100: ACCOUNT OF; ADDRESSED TO THE SUBJECT; DOUBLE-STRUCK CAPITAL C; DEGREE CELSIUS; CENTRE LINE
   SYMBOL; CARE OF; CADA UNA; EULER CONSTANT; SCRUPLE; DEGREE FAHRENHEIT; SCRIPT SMALL G; SCRIPT
   CAPITAL H; BLACK-LETTER CAPITAL H; DOUBLE-STRUCK CAPITAL H; PLANCK CONSTANT; PLANCK CONSTANT
   OVER TWO PI.
   2110+ SCRIPT CAPITAL: I; L.
   2111: BLACK-LETTER CAPITAL I.
   2113: SCRIPT SMALL L; L B BAR SYMBOL; DOUBLE-STRUCK CAPITAL N; NUMERO SIGN; SOUND RECORDING
   COPYRIGHT; SCRIPT CAPITAL P.
   2119 DOUBLE-STRUCK CAPITAL: P; Q.
   211B: SCRIPT CAPITAL R; BLACK-LETTER CAPITAL R; DOUBLE-STRUCK CAPITAL R; PRESCRIPTION TAKE;
   RESPONSE; SERVICE MARK; TELEPHONE SIGN; TRADE MARK SIGN; VERSICLE; DOUBLE-STRUCK CAPITAL Z;
   OUNCE SIGN; OHM SIGN; INVERTED OHM SIGN; BLACK-LETTER CAPITAL Z; TURNED GREEK SMALL LETTER IOTA;
   KELVIN SIGN; ANGSTROM SIGN; SCRIPT CAPITAL B; BLACK-LETTER CAPITAL C; ESTIMATED SYMBOL.
   212F SCRIPT: SMALL E; CAPITAL E; CAPITAL F.
   2132: TURNED CAPITAL F; SCRIPT CAPITAL M; SCRIPT SMALL O; ALEF SYMBOL; BET SYMBOL; GIMEL SYMBOL;
   DALET SYMBOL; INFORMATION SOURCE; ROTATED CAPITAL Q; FACSIMILE SIGN.
   213C DOUBLE-STRUCK: SMALL PI; SMALL GAMMA; CAPITAL GAMMA; CAPITAL PI; N-ARY SUMMATION.
   2141 TURNED SANS-SERIF CAPITAL: G; L.
   2143: REVERSED SANS-SERIF CAPITAL L; TURNED SANS-SERIF CAPITAL Y.
   2145 DOUBLE-STRUCK ITALIC: CAPITAL D; SMALL D; SMALL E; SMALL I; SMALL J.
   214A: PROPERTY LINE; TURNED AMPERSAND; PER SIGN; AKTIESELSKAB; TURNED SMALL F; SYMBOL FOR
   SAMARITAN SOURCE.
   2150 VULGAR FRACTION: ONE SEVENTH; ONE NINTH; ONE TENTH; ONE THIRD; TWO THIRDS; ONE FIFTH; TWO
   FIFTHS; THREE FIFTHS; FOUR FIFTHS; ONE SIXTH; FIVE SIXTHS; ONE EIGHTH; THREE EIGHTHS; FIVE
   EIGHTHS; SEVEN EIGHTHS.
   215F: FRACTION NUMERATOR ONE.
   2160 ROMAN NUMERAL: ONE; TWO; THREE; FOUR; FIVE; SIX; SEVEN; EIGHT; NINE; TEN; ELEVEN; TWELVE;
   FIFTY; ONE HUNDRED; FIVE HUNDRED; ONE THOUSAND.
   2170 SMALL ROMAN NUMERAL: ONE; TWO; THREE; FOUR; FIVE; SIX; SEVEN; EIGHT; NINE; TEN; ELEVEN;
   TWELVE; FIFTY; ONE HUNDRED; FIVE HUNDRED; ONE THOUSAND.
   2180 ROMAN NUMERAL: ONE THOUSAND C D; FIVE THOUSAND; TEN THOUSAND; REVERSED ONE HUNDRED.
   2184: LATIN SMALL LETTER REVERSED C.
   2185 ROMAN NUMERAL: SIX LATE FORM; FIFTY EARLY FORM; FIFTY THOUSAND; ONE HUNDRED THOUSAND.
   2189: VULGAR FRACTION ZERO THIRDS.
   218A TURNED DIGIT: TWO; THREE.
   3000 IDEOGRAPHIC: SPACE; COMMA; FULL STOP.
   3003: DITTO MARK; JAPANESE INDUSTRIAL STANDARD SYMBOL.
   3005 IDEOGRAPHIC: ITERATION MARK; CLOSING MARK; NUMBER ZERO.
   3008+ LEFT: ANGLE BRACKET; DOUBLE ANGLE BRACKET; CORNER BRACKET; WHITE CORNER BRACKET; BLACK
   LENTICULAR BRACKET.
   3009+ RIGHT: ANGLE BRACKET; DOUBLE ANGLE BRACKET; CORNER BRACKET; WHITE CORNER BRACKET; BLACK
   LENTICULAR BRACKET.
   3012: POSTAL MARK; GETA MARK.
   3014+ LEFT: TORTOISE SHELL BRACKET; WHITE LENTICULAR BRACKET; WHITE TORTOISE SHELL BRACKET;
   WHITE SQUARE BRACKET.
   3015+ RIGHT: TORTOISE SHELL BRACKET; WHITE LENTICULAR BRACKET; WHITE TORTOISE SHELL BRACKET;
   WHITE SQUARE BRACKET.
   301C: WAVE DASH; REVERSED DOUBLE PRIME QUOTATION MARK; DOUBLE PRIME QUOTATION MARK; LOW DOUBLE
   PRIME QUOTATION MARK; POSTAL MARK FACE.
   3021 HANGZHOU NUMERAL: ONE; TWO; THREE; FOUR; FIVE; SIX; SEVEN; EIGHT; NINE.
   302A IDEOGRAPHIC: LEVEL TONE MARK; RISING TONE MARK; DEPARTING TONE MARK; ENTERING TONE MARK.
   302E: HANGUL SINGLE DOT TONE MARK; HANGUL DOUBLE DOT TONE MARK; WAVY DASH.
   3031 VERTICAL KANA REPEAT: MARK; WITH VOICED SOUND MARK; MARK UPPER HALF; WITH VOICED SOUND MARK
   UPPER HALF; MARK LOWER HALF.
   3036: CIRCLED POSTAL MARK; IDEOGRAPHIC TELEGRAPH LINE FEED SEPARATOR SYMBOL.
   3038 HANGZHOU NUMERAL: TEN; TWENTY; THIRTY.
   303B: VERTICAL IDEOGRAPHIC ITERATION MARK; MASU MARK; PART ALTERNATION MARK.
   303E IDEOGRAPHIC: VARIATION INDICATOR; HALF FILL SPACE.
   3041 HIRAGANA LETTER: SMALL A; A; SMALL I; I; SMALL U; U; SMALL E; E; SMALL O; O; KA; GA; KI;
   GI; KU; GU; KE; GE; KO; GO; SA; ZA; SI; ZI; SU; ZU; SE; ZE; SO; ZO; TA; DA; TI; DI; SMALL TU;
   TU; DU; TE; DE; TO; DO; NA; NI; NU; NE; NO; HA; BA; PA; HI; BI; PI; HU; BU; PU; HE; BE; PE; HO;
   BO; PO; MA; MI; MU; ME; MO; SMALL YA; YA; SMALL YU; YU; SMALL YO; YO; RA; RI; RU; RE; RO; SMALL
   WA; WA; WI; WE; WO; N; VU; SMALL KA; SMALL KE.
   3099 COMBINING KATAKANA-HIRAGANA: VOICED SOUND MARK; SEMI-VOICED SOUND MARK.
   309B KATAKANA-HIRAGANA: VOICED SOUND MARK; SEMI-VOICED SOUND MARK.
   309D HIRAGANA: ITERATION MARK; VOICED ITERATION MARK; DIGRAPH YORI.
   30A0: KATAKANA-HIRAGANA DOUBLE HYPHEN.
   30A1 KATAKANA LETTER: SMALL A; A; SMALL I; I; SMALL U; U; SMALL E; E; SMALL O; O; KA; GA; KI;
   GI; KU; GU; KE; GE; KO; GO; SA; ZA; SI; ZI; SU; ZU; SE; ZE; SO; ZO; TA; DA; TI; DI; SMALL TU;
   TU; DU; TE; DE; TO; DO; NA; NI; NU; NE; NO; HA; BA; PA; HI; BI; PI; HU; BU; PU; HE; BE; PE; HO;
   BO; PO; MA; MI; MU; ME; MO; SMALL YA; YA; SMALL YU; YU; SMALL YO; YO; RA; RI; RU; RE; RO; SMALL
   WA; WA; WI; WE; WO; N; VU; SMALL KA; SMALL KE; VA; VI; VE; VO.
   30FB+ KATAKANA: MIDDLE DOT; ITERATION MARK; DIGRAPH KOTO.
   30FC: KATAKANA-HIRAGANA PROLONGED SOUND MARK.
   30FE: KATAKANA VOICED ITERATION MARK.
   FE00 VARIATION: SELECTOR-1; SELECTOR-2; SELECTOR-3; SELECTOR-4; SELECTOR-5; SELECTOR-6;
   SELECTOR-7; SELECTOR-8; SELECTOR-9; SELECTOR-10; SELECTOR-11; SELECTOR-12; SELECTOR-13;
   SELECTOR-14; SELECTOR-15; SELECTOR-16.
   FEFF: ZERO WIDTH NO-BREAK SPACE.
   FF01 FULLWIDTH: EXCLAMATION MARK; QUOTATION MARK; NUMBER SIGN; DOLLAR SIGN; PERCENT SIGN;
   AMPERSAND; APOSTROPHE; LEFT PARENTHESIS; RIGHT PARENTHESIS; ASTERISK; PLUS SIGN; COMMA;
   HYPHEN-MINUS; FULL STOP; SOLIDUS; DIGIT ZERO; DIGIT ONE; DIGIT TWO; DIGIT THREE; DIGIT FOUR;
   DIGIT FIVE; DIGIT SIX; DIGIT SEVEN; DIGIT EIGHT; DIGIT NINE; COLON; SEMICOLON; LESS-THAN SIGN;
   EQUALS SIGN; GREATER-THAN SIGN; QUESTION MARK; COMMERCIAL AT; LATIN CAPITAL LETTER A; LATIN
   CAPITAL LETTER B; LATIN CAPITAL LETTER C; LATIN CAPITAL LETTER D; LATIN CAPITAL LETTER E; LATIN
   CAPITAL LETTER F; LATIN CAPITAL LETTER G; LATIN CAPITAL LETTER H; LATIN CAPITAL LETTER I; LATIN
   CAPITAL LETTER J; LATIN CAPITAL LETTER K; LATIN CAPITAL LETTER L; LATIN CAPITAL LETTER M; LATIN
   CAPITAL LETTER N; LATIN CAPITAL LETTER O; LATIN CAPITAL LETTER P; LATIN CAPITAL LETTER Q; LATIN
   CAPITAL LETTER R; LATIN CAPITAL LETTER S; LATIN CAPITAL LETTER T; LATIN CAPITAL LETTER U; LATIN
   CAPITAL LETTER V; LATIN CAPITAL LETTER W; LATIN CAPITAL LETTER X; LATIN CAPITAL LETTER Y; LATIN
   CAPITAL LETTER Z; LEFT SQUARE BRACKET; REVERSE SOLIDUS; RIGHT SQUARE BRACKET; CIRCUMFLEX ACCENT;
   LOW LINE; GRAVE ACCENT; LATIN SMALL LETTER A; LATIN SMALL LETTER B; LATIN SMALL LETTER C; LATIN
   SMALL LETTER D; LATIN SMALL LETTER E; LATIN SMALL LETTER F; LATIN SMALL LETTER G; LATIN SMALL
   LETTER H; LATIN SMALL LETTER I; LATIN SMALL LETTER J; LATIN SMALL LETTER K; LATIN SMALL LETTER
   L; LATIN SMALL LETTER M; LATIN SMALL LETTER N; LATIN SMALL LETTER O; LATIN SMALL LETTER P; LATIN
   SMALL LETTER Q; LATIN SMALL LETTER R; LATIN SMALL LETTER S; LATIN SMALL LETTER T; LATIN SMALL
   LETTER U; LATIN SMALL LETTER V; LATIN SMALL LETTER W; LATIN SMALL LETTER X; LATIN SMALL LETTER
   Y; LATIN SMALL LETTER Z; LEFT CURLY BRACKET; VERTICAL LINE; RIGHT CURLY BRACKET; TILDE.
   FFFC: OBJECT REPLACEMENT CHARACTER; REPLACEMENT CHARACTER."

end CommitRules.Regex
