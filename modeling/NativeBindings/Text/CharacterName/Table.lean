/-!
# The names of Unicode characters

`characterNameTable` lists every character that has a name of its own in the Unicode character
database of Unicode 15.1, with its name and the aliases that correct it or name a control
character or give another name in use (the abbreviations and figments are left out), in the
order of the code points; a character with several names has an entry for each, the later ones
at a distance of zero. The characters whose names are made from their code points (the unified
and compatibility ideographs, Tangut, Khitan and Nushu characters, and the Hangul syllables) are
not in it; `Text.CharacterName` builds those names.

The entries are written one after the other, with nothing between them, and the text is cut
into pieces of a hundred characters or so, read in order as one. Each entry has three parts:

* how far its code point is after that of the entry before (the first counts from zero): a
  letter from `a` for 1 to `z` for 26, or another distance in decimal digits between two `!`;
* how many leading characters its name shares with the name before, as a character of
  `sharedLengthDigits`, whose first character stands for none;
* the rest of its name, in capital letters, digits, spaces and hyphens, up to the small letter
  or the `!` that starts the next entry.
-/

namespace NativeBindings.Text

/-- The characters that give how many leading characters a name shares with the one before it:
the one at index `k` stands for `k`. -/
def sharedLengthDigits : String :=
  "!#$%&()*+,.0123456789:;<=>?@ABCDEFGHIJKLMNOPQRSTUVWXYZ[]^_abcdefghijklmnopqrstuvwxyz|~"

/-- The characters with names of their own and their names, written as the module header says. -/
def characterNameTable : List String :=
  ["!0!!NULLa!START OF HEADINGa,TEXTa!END OF TEXTa+RANSMISSIONa$QUIRYa!ACKNOWLEDGEa#LERTa!BACKSPACEa",
   "!CHARACTER TABULATION!0!!HORIZONTAL TABULATIONa!LINE FEED!0!!NEW LINE!0!!END OF LINEa!LINE TABUL",
   "ATION!0!!VERTICAL TABULATIONa!FORM FEEDa!CARRIAGE RETURNa!SHIFT OUT!0!!LOCKING-SHIFT ONEa!SHIFT ",
   "IN!0!!LOCKING-SHIFT ZEROa!DATA LINK ESCAPEa#EVICE CONTROL ONEa4TWOa5HREEa4FOURa!NEGATIVE ACKNOWL",
   "EDGEa!SYNCHRONOUS IDLEa!END OF TRANSMISSION BLOCKa!CANCELa!END OF MEDIUMa!SUBSTITUTEa!ESCAPEa!IN",
   "FORMATION SEPARATOR FOUR!0!!FILE SEPARATORa!INFORMATION SEPARATOR THREE!0!!GROUP SEPARATORa!INFO",
   "RMATION SEPARATOR TWO!0!!RECORD SEPARATORa!INFORMATION SEPARATOR ONE!0!!UNIT SEPARATORa!SPACEa!E",
   "XCLAMATION MARKa!QUOTATION MARKa!NUMBER SIGNa!DOLLAR SIGNa!PERCENT SIGNa!AMPERSANDa#POSTROPHEa!L",
   "EFT PARENTHESISa!RIGHT PARENTHESISa!ASTERISKa!PLUS SIGNa!COMMAa!HYPHEN-MINUSa!FULL STOPa!SOLIDUS",
   "a!DIGIT ZEROa)ONEa)TWOa*HREEa)FOURa*IVEa)SIXa*EVENa)EIGHTa)NINEa!COLONa!SEMICOLONa!LESS-THAN SIG",
   "Na!EQUALS SIGNa!GREATER-THAN SIGNa!QUESTION MARKa!COMMERCIAL ATa!LATIN CAPITAL LETTER Aa:Ba:Ca:D",
   "a:Ea:Fa:Ga:Ha:Ia:Ja:Ka:La:Ma:Na:Oa:Pa:Qa:Ra:Sa:Ta:Ua:Va:Wa:Xa:Ya:Za#EFT SQUARE BRACKETa!REVERSE ",
   "SOLIDUSa#IGHT SQUARE BRACKETa!CIRCUMFLEX ACCENTa!LOW LINEa!GRAVE ACCENTa!LATIN SMALL LETTER Aa8B",
   "a8Ca8Da8Ea8Fa8Ga8Ha8Ia8Ja8Ka8La8Ma8Na8Oa8Pa8Qa8Ra8Sa8Ta8Ua8Va8Wa8Xa8Ya8Za#EFT CURLY BRACKETa!VER",
   "TICAL LINEa!RIGHT CURLY BRACKETa!TILDEa!DELETEc!BREAK PERMITTED HEREa!NO BREAK HEREa!INDEXa!NEXT",
   " LINEa!START OF SELECTED AREAa!END OF SELECTED AREAa!CHARACTER TABULATION SET!0!!HORIZONTAL TABU",
   "LATION SETa!CHARACTER TABULATION WITH JUSTIFICATION!0!!HORIZONTAL TABULATION WITH JUSTIFICATIONa",
   "!LINE TABULATION SET!0!!VERTICAL TABULATION SETa!PARTIAL LINE FORWARD!0!2DOWNa2BACKWARD!0!2UPa!R",
   "EVERSE LINE FEED!0!+INDEXa!SINGLE SHIFT TWO!0!)-SHIFT-2a) SHIFT THREE!0!)-SHIFT-3a!DEVICE CONTRO",
   "L STRINGa!PRIVATE USE ONE!0!0-1a0 TWO!0!0-2a!SET TRANSMIT STATEa!CANCEL CHARACTERa!MESSAGE WAITI",
   "NGa!START OF GUARDED AREA!0!,PROTECTED AREAa!END OF GUARDED AREA!0!*PROTECTED AREAa!START OF STR",
   "INGb#INGLE CHARACTER INTRODUCERa!CONTROL SEQUENCE INTRODUCERa!STRING TERMINATORa!OPERATING SYSTE",
   "M COMMANDa!PRIVACY MESSAGEa!APPLICATION PROGRAM COMMANDa!NO-BREAK SPACEa!INVERTED EXCLAMATION MA",
   "RKa!CENT SIGNa!POUND SIGNa!CURRENCY SIGNa!YEN SIGNa!BROKEN BARa!SECTION SIGNa!DIAERESISa!COPYRIG",
   "HT SIGNa!FEMININE ORDINAL INDICATORa!LEFT-POINTING DOUBLE ANGLE QUOTATION MARKa!NOT SIGNa!SOFT H",
   "YPHENa!REGISTERED SIGNa!MACRONa!DEGREE SIGNa!PLUS-MINUS SIGNa!SUPERSCRIPT TWOa2HREEa!ACUTE ACCEN",
   "Ta!MICRO SIGNa!PILCROW SIGNa!MIDDLE DOTa!CEDILLAa!SUPERSCRIPT ONEa!MASCULINE ORDINAL INDICATORa!",
   "RIGHT-POINTING DOUBLE ANGLE QUOTATION MARKa!VULGAR FRACTION ONE QUARTERa9HALFa5THREE QUARTERSa!I",
   "NVERTED QUESTION MARKa!LATIN CAPITAL LETTER A WITH GRAVEaAACUTEaACIRCUMFLEXaATILDEaADIAERESISaAR",
   "ING ABOVEa;Ea:C WITH CEDILLAa:E WITH GRAVEaAACUTEaACIRCUMFLEXaADIAERESISa:I WITH GRAVEaAACUTEaAC",
   "IRCUMFLEXaADIAERESISa:ETHa:N WITH TILDEa:O WITH GRAVEaAACUTEaACIRCUMFLEXaATILDEaADIAERESISa!MULT",
   "IPLICATION SIGNa!LATIN CAPITAL LETTER O WITH STROKEa:U WITH GRAVEaAACUTEaACIRCUMFLEXaADIAERESISa",
   ":Y WITH ACUTEa:THORNa)SMALL LETTER SHARP Sa8A WITH GRAVEa?ACUTEa?CIRCUMFLEXa?TILDEa?DIAERESISa?R",
   "ING ABOVEa9Ea8C WITH CEDILLAa8E WITH GRAVEa?ACUTEa?CIRCUMFLEXa?DIAERESISa8I WITH GRAVEa?ACUTEa?C",
   "IRCUMFLEXa?DIAERESISa8ETHa8N WITH TILDEa8O WITH GRAVEa?ACUTEa?CIRCUMFLEXa?TILDEa?DIAERESISa!DIVI",
   "SION SIGNa!LATIN SMALL LETTER O WITH STROKEa8U WITH GRAVEa?ACUTEa?CIRCUMFLEXa?DIAERESISa8Y WITH ",
   "ACUTEa8THORNa8Y WITH DIAERESISa)CAPITAL LETTER A WITH MACRONa)SMALL LETTER A WITH MACRONa)CAPITA",
   "L LETTER A WITH BREVEa)SMALL LETTER A WITH BREVEa)CAPITAL LETTER A WITH OGONEKa)SMALL LETTER A W",
   "ITH OGONEKa)CAPITAL LETTER C WITH ACUTEa)SMALL LETTER C WITH ACUTEa)CAPITAL LETTER C WITH CIRCUM",
   "FLEXa)SMALL LETTER C WITH CIRCUMFLEXa)CAPITAL LETTER C WITH DOT ABOVEa)SMALL LETTER C WITH DOT A",
   "BOVEa)CAPITAL LETTER C WITH CARONa)SMALL LETTER C WITH CARONa)CAPITAL LETTER D WITH CARONa)SMALL",
   " LETTER D WITH CARONa)CAPITAL LETTER D WITH STROKEa)SMALL LETTER D WITH STROKEa)CAPITAL LETTER E",
   " WITH MACRONa)SMALL LETTER E WITH MACRONa)CAPITAL LETTER E WITH BREVEa)SMALL LETTER E WITH BREVE",
   "a)CAPITAL LETTER E WITH DOT ABOVEa)SMALL LETTER E WITH DOT ABOVEa)CAPITAL LETTER E WITH OGONEKa)",
   "SMALL LETTER E WITH OGONEKa)CAPITAL LETTER E WITH CARONa)SMALL LETTER E WITH CARONa)CAPITAL LETT",
   "ER G WITH CIRCUMFLEXa)SMALL LETTER G WITH CIRCUMFLEXa)CAPITAL LETTER G WITH BREVEa)SMALL LETTER ",
   "G WITH BREVEa)CAPITAL LETTER G WITH DOT ABOVEa)SMALL LETTER G WITH DOT ABOVEa)CAPITAL LETTER G W",
   "ITH CEDILLAa)SMALL LETTER G WITH CEDILLAa)CAPITAL LETTER H WITH CIRCUMFLEXa)SMALL LETTER H WITH ",
   "CIRCUMFLEXa)CAPITAL LETTER H WITH STROKEa)SMALL LETTER H WITH STROKEa)CAPITAL LETTER I WITH TILD",
   "Ea)SMALL LETTER I WITH TILDEa)CAPITAL LETTER I WITH MACRONa)SMALL LETTER I WITH MACRONa)CAPITAL ",
   "LETTER I WITH BREVEa)SMALL LETTER I WITH BREVEa)CAPITAL LETTER I WITH OGONEKa)SMALL LETTER I WIT",
   "H OGONEKa)CAPITAL LETTER I WITH DOT ABOVEa)SMALL LETTER DOTLESS Ia)CAPITAL LIGATURE IJa)SMALL LI",
   "GATURE IJa)CAPITAL LETTER J WITH CIRCUMFLEXa)SMALL LETTER J WITH CIRCUMFLEXa)CAPITAL LETTER K WI",
   "TH CEDILLAa)SMALL LETTER K WITH CEDILLAa9RAa)CAPITAL LETTER L WITH ACUTEa)SMALL LETTER L WITH AC",
   "UTEa)CAPITAL LETTER L WITH CEDILLAa)SMALL LETTER L WITH CEDILLAa)CAPITAL LETTER L WITH CARONa)SM",
   "ALL LETTER L WITH CARONa)CAPITAL LETTER L WITH MIDDLE DOTa)SMALL LETTER L WITH MIDDLE DOTa)CAPIT",
   "AL LETTER L WITH STROKEa)SMALL LETTER L WITH STROKEa)CAPITAL LETTER N WITH ACUTEa)SMALL LETTER N",
   " WITH ACUTEa)CAPITAL LETTER N WITH CEDILLAa)SMALL LETTER N WITH CEDILLAa)CAPITAL LETTER N WITH C",
   "ARONa)SMALL LETTER N WITH CARONa:PRECEDED BY APOSTROPHEa)CAPITAL LETTER ENGa)SMALL LETTER ENGa)C",
   "APITAL LETTER O WITH MACRONa)SMALL LETTER O WITH MACRONa)CAPITAL LETTER O WITH BREVEa)SMALL LETT",
   "ER O WITH BREVEa)CAPITAL LETTER O WITH DOUBLE ACUTEa)SMALL LETTER O WITH DOUBLE ACUTEa)CAPITAL L",
   "IGATURE OEa)SMALL LIGATURE OEa)CAPITAL LETTER R WITH ACUTEa)SMALL LETTER R WITH ACUTEa)CAPITAL L",
   "ETTER R WITH CEDILLAa)SMALL LETTER R WITH CEDILLAa)CAPITAL LETTER R WITH CARONa)SMALL LETTER R W",
   "ITH CARONa)CAPITAL LETTER S WITH ACUTEa)SMALL LETTER S WITH ACUTEa)CAPITAL LETTER S WITH CIRCUMF",
   "LEXa)SMALL LETTER S WITH CIRCUMFLEXa)CAPITAL LETTER S WITH CEDILLAa)SMALL LETTER S WITH CEDILLAa",
   ")CAPITAL LETTER S WITH CARONa)SMALL LETTER S WITH CARONa)CAPITAL LETTER T WITH CEDILLAa)SMALL LE",
   "TTER T WITH CEDILLAa)CAPITAL LETTER T WITH CARONa)SMALL LETTER T WITH CARONa)CAPITAL LETTER T WI",
   "TH STROKEa)SMALL LETTER T WITH STROKEa)CAPITAL LETTER U WITH TILDEa)SMALL LETTER U WITH TILDEa)C",
   "APITAL LETTER U WITH MACRONa)SMALL LETTER U WITH MACRONa)CAPITAL LETTER U WITH BREVEa)SMALL LETT",
   "ER U WITH BREVEa)CAPITAL LETTER U WITH RING ABOVEa)SMALL LETTER U WITH RING ABOVEa)CAPITAL LETTE",
   "R U WITH DOUBLE ACUTEa)SMALL LETTER U WITH DOUBLE ACUTEa)CAPITAL LETTER U WITH OGONEKa)SMALL LET",
   "TER U WITH OGONEKa)CAPITAL LETTER W WITH CIRCUMFLEXa)SMALL LETTER W WITH CIRCUMFLEXa)CAPITAL LET",
   "TER Y WITH CIRCUMFLEXa)SMALL LETTER Y WITH CIRCUMFLEXa)CAPITAL LETTER Y WITH DIAERESISa:Z WITH A",
   "CUTEa)SMALL LETTER Z WITH ACUTEa)CAPITAL LETTER Z WITH DOT ABOVEa)SMALL LETTER Z WITH DOT ABOVEa",
   ")CAPITAL LETTER Z WITH CARONa)SMALL LETTER Z WITH CARONa8LONG Sa8B WITH STROKEa)CAPITAL LETTER B",
   " WITH HOOKaATOPBARa)SMALL LETTER B WITH TOPBARa)CAPITAL LETTER TONE SIXa)SMALL LETTER TONE SIXa)",
   "CAPITAL LETTER OPEN Oa:C WITH HOOKa)SMALL LETTER C WITH HOOKa)CAPITAL LETTER AFRICAN Da:D WITH H",
   "OOKaATOPBARa)SMALL LETTER D WITH TOPBARa8TURNED DELTAa)CAPITAL LETTER REVERSED Ea:SCHWAa:OPEN Ea",
   ":F WITH HOOKa)SMALL LETTER F WITH HOOKa)CAPITAL LETTER G WITH HOOKa;AMMAa)SMALL LETTER HVa)CAPIT",
   "AL LETTER IOTAa; WITH STROKEa:K WITH HOOKa)SMALL LETTER K WITH HOOKa8L WITH BARa9AMBDA WITH STRO",
   "KEa)CAPITAL LETTER TURNED Ma:N WITH LEFT HOOKa)SMALL LETTER N WITH LONG RIGHT LEGa)CAPITAL LETTE",
   "R O WITH MIDDLE TILDEaAHORNa)SMALL LETTER O WITH HORNa)CAPITAL LETTER OI!0!:GHAa)SMALL LETTER OI",
   "!0!8GHAa)CAPITAL LETTER P WITH HOOKa)SMALL LETTER P WITH HOOKa)LETTER YRa)CAPITAL LETTER TONE TW",
   "Oa)SMALL LETTER TONE TWOa)CAPITAL LETTER ESHa)LETTER REVERSED ESH LOOPa)SMALL LETTER T WITH PALA",
   "TAL HOOKa)CAPITAL LETTER T WITH HOOKa)SMALL LETTER T WITH HOOKa)CAPITAL LETTER T WITH RETROFLEX ",
   "HOOKa:U WITH HORNa)SMALL LETTER U WITH HORNa)CAPITAL LETTER UPSILONa:V WITH HOOKa:Y WITH HOOKa)S",
   "MALL LETTER Y WITH HOOKa)CAPITAL LETTER Z WITH STROKEa)SMALL LETTER Z WITH STROKEa)CAPITAL LETTE",
   "R EZHa= REVERSEDa)SMALL LETTER EZH REVERSEDa<WITH TAILa)LETTER TWO WITH STROKEa)CAPITAL LETTER T",
   "ONE FIVEa)SMALL LETTER TONE FIVEa)LETTER INVERTED GLOTTAL STOP WITH STROKEa2WYNNa2DENTAL CLICKa2",
   "LATERAL CLICKa2ALVEOLAR CLICKa2RETROFLEX CLICKa)CAPITAL LETTER DZ WITH CARONa; WITH SMALL LETTER",
   " Z WITH CARONa)SMALL LETTER DZ WITH CARONa)CAPITAL LETTER LJa; WITH SMALL LETTER Ja)SMALL LETTER",
   " LJa)CAPITAL LETTER NJa; WITH SMALL LETTER Ja)SMALL LETTER NJa)CAPITAL LETTER A WITH CARONa)SMAL",
   "L LETTER A WITH CARONa)CAPITAL LETTER I WITH CARONa)SMALL LETTER I WITH CARONa)CAPITAL LETTER O ",
   "WITH CARONa)SMALL LETTER O WITH CARONa)CAPITAL LETTER U WITH CARONa)SMALL LETTER U WITH CARONa)C",
   "APITAL LETTER U WITH DIAERESIS AND MACRONa)SMALL LETTER U WITH DIAERESIS AND MACRONa)CAPITAL LET",
   "TER U WITH DIAERESIS AND ACUTEa)SMALL LETTER U WITH DIAERESIS AND ACUTEa)CAPITAL LETTER U WITH D",
   "IAERESIS AND CARONa)SMALL LETTER U WITH DIAERESIS AND CARONa)CAPITAL LETTER U WITH DIAERESIS AND",
   " GRAVEa)SMALL LETTER U WITH DIAERESIS AND GRAVEa8TURNED Ea)CAPITAL LETTER A WITH DIAERESIS AND M",
   "ACRONa)SMALL LETTER A WITH DIAERESIS AND MACRONa)CAPITAL LETTER A WITH DOT ABOVE AND MACRONa)SMA",
   "LL LETTER A WITH DOT ABOVE AND MACRONa)CAPITAL LETTER AE WITH MACRONa)SMALL LETTER AE WITH MACRO",
   "Na)CAPITAL LETTER G WITH STROKEa)SMALL LETTER G WITH STROKEa)CAPITAL LETTER G WITH CARONa)SMALL ",
   "LETTER G WITH CARONa)CAPITAL LETTER K WITH CARONa)SMALL LETTER K WITH CARONa)CAPITAL LETTER O WI",
   "TH OGONEKa)SMALL LETTER O WITH OGONEKa)CAPITAL LETTER O WITH OGONEK AND MACRONa)SMALL LETTER O W",
   "ITH OGONEK AND MACRONa)CAPITAL LETTER EZH WITH CARONa)SMALL LETTER EZH WITH CARONa8J WITH CARONa",
   ")CAPITAL LETTER DZa; WITH SMALL LETTER Za)SMALL LETTER DZa)CAPITAL LETTER G WITH ACUTEa)SMALL LE",
   "TTER G WITH ACUTEa)CAPITAL LETTER HWAIRa:WYNNa:N WITH GRAVEa)SMALL LETTER N WITH GRAVEa)CAPITAL ",
   "LETTER A WITH RING ABOVE AND ACUTEa)SMALL LETTER A WITH RING ABOVE AND ACUTEa)CAPITAL LETTER AE ",
   "WITH ACUTEa)SMALL LETTER AE WITH ACUTEa)CAPITAL LETTER O WITH STROKE AND ACUTEa)SMALL LETTER O W",
   "ITH STROKE AND ACUTEa)CAPITAL LETTER A WITH DOUBLE GRAVEa)SMALL LETTER A WITH DOUBLE GRAVEa)CAPI",
   "TAL LETTER A WITH INVERTED BREVEa)SMALL LETTER A WITH INVERTED BREVEa)CAPITAL LETTER E WITH DOUB",
   "LE GRAVEa)SMALL LETTER E WITH DOUBLE GRAVEa)CAPITAL LETTER E WITH INVERTED BREVEa)SMALL LETTER E",
   " WITH INVERTED BREVEa)CAPITAL LETTER I WITH DOUBLE GRAVEa)SMALL LETTER I WITH DOUBLE GRAVEa)CAPI",
   "TAL LETTER I WITH INVERTED BREVEa)SMALL LETTER I WITH INVERTED BREVEa)CAPITAL LETTER O WITH DOUB",
   "LE GRAVEa)SMALL LETTER O WITH DOUBLE GRAVEa)CAPITAL LETTER O WITH INVERTED BREVEa)SMALL LETTER O",
   " WITH INVERTED BREVEa)CAPITAL LETTER R WITH DOUBLE GRAVEa)SMALL LETTER R WITH DOUBLE GRAVEa)CAPI",
   "TAL LETTER R WITH INVERTED BREVEa)SMALL LETTER R WITH INVERTED BREVEa)CAPITAL LETTER U WITH DOUB",
   "LE GRAVEa)SMALL LETTER U WITH DOUBLE GRAVEa)CAPITAL LETTER U WITH INVERTED BREVEa)SMALL LETTER U",
   " WITH INVERTED BREVEa)CAPITAL LETTER S WITH COMMA BELOWa)SMALL LETTER S WITH COMMA BELOWa)CAPITA",
   "L LETTER T WITH COMMA BELOWa)SMALL LETTER T WITH COMMA BELOWa)CAPITAL LETTER YOGHa)SMALL LETTER ",
   "YOGHa)CAPITAL LETTER H WITH CARONa)SMALL LETTER H WITH CARONa)CAPITAL LETTER N WITH LONG RIGHT L",
   "EGa)SMALL LETTER D WITH CURLa)CAPITAL LETTER OUa)SMALL LETTER OUa)CAPITAL LETTER Z WITH HOOKa)SM",
   "ALL LETTER Z WITH HOOKa)CAPITAL LETTER A WITH DOT ABOVEa)SMALL LETTER A WITH DOT ABOVEa)CAPITAL ",
   "LETTER E WITH CEDILLAa)SMALL LETTER E WITH CEDILLAa)CAPITAL LETTER O WITH DIAERESIS AND MACRONa)",
   "SMALL LETTER O WITH DIAERESIS AND MACRONa)CAPITAL LETTER O WITH TILDE AND MACRONa)SMALL LETTER O",
   " WITH TILDE AND MACRONa)CAPITAL LETTER O WITH DOT ABOVEa)SMALL LETTER O WITH DOT ABOVEa)CAPITAL ",
   "LETTER O WITH DOT ABOVE AND MACRONa)SMALL LETTER O WITH DOT ABOVE AND MACRONa)CAPITAL LETTER Y W",
   "ITH MACRONa)SMALL LETTER Y WITH MACRONa8L WITH CURLa8N WITH CURLa8T WITH CURLa8DOTLESS Ja9B DIGR",
   "APHa8QP DIGRAPHa)CAPITAL LETTER A WITH STROKEa:C WITH STROKEa)SMALL LETTER C WITH STROKEa)CAPITA",
   "L LETTER L WITH BARa:T WITH DIAGONAL STROKEa)SMALL LETTER S WITH SWASH TAILa8Z WITH SWASH TAILa)",
   "CAPITAL LETTER GLOTTAL STOPa)SMALL LETTER GLOTTAL STOPa)CAPITAL LETTER B WITH STROKEa:U BARa:TUR",
   "NED Va:E WITH STROKEa)SMALL LETTER E WITH STROKEa)CAPITAL LETTER J WITH STROKEa)SMALL LETTER J W",
   "ITH STROKEa)CAPITAL LETTER SMALL Q WITH HOOK TAILa)SMALL LETTER Q WITH HOOK TAILa)CAPITAL LETTER",
   " R WITH STROKEa)SMALL LETTER R WITH STROKEa)CAPITAL LETTER Y WITH STROKEa)SMALL LETTER Y WITH ST",
   "ROKEa8TURNED Aa8ALPHAa8TURNED ALPHAa8B WITH HOOKa8OPEN Oa8C WITH CURLa8D WITH TAILa?HOOKa8REVERS",
   "ED Ea8SCHWAa= WITH HOOKa8OPEN Ea8REVERSED OPEN EaG WITH HOOKa8CLOSED REVERSED OPEN Ea8DOTLESS J ",
   "WITH STROKEa8G WITH HOOKa8SCRIPT Ga)LETTER SMALL CAPITAL Ga)SMALL LETTER GAMMAa8RAMS HORNa8TURNE",
   "D Ha8H WITH HOOKa9ENG WITH HOOKa8I WITH STROKEa9OTAa)LETTER SMALL CAPITAL Ia)SMALL LETTER L WITH",
   " MIDDLE TILDEa?BELTa?RETROFLEX HOOKa9EZHa8TURNED Ma@ WITH LONG LEGa8M WITH HOOKa8N WITH LEFT HOO",
   "Ka?RETROFLEX HOOKa)LETTER SMALL CAPITAL Na)SMALL LETTER BARRED Oa)LETTER SMALL CAPITAL OEa)SMALL",
   " LETTER CLOSED OMEGAa8PHIa8TURNED Ra@ WITH LONG LEGaFHOOKa8R WITH LONG LEGa?TAILa?FISHHOOKa9EVER",
   "SED R WITH FISHHOOKa)LETTER SMALL CAPITAL Ra@INVERTED Ra)SMALL LETTER S WITH HOOKa8ESHa8DOTLESS ",
   "J WITH STROKE AND HOOKa8SQUAT REVERSED ESHa8ESH WITH CURLa8TURNED Ta9 WITH RETROFLEX HOOKa8U BAR",
   "a9PSILONa8V WITH HOOKa8TURNED Va?Wa?Ya)LETTER SMALL CAPITAL Ya)SMALL LETTER Z WITH RETROFLEX HOO",
   "Ka?CURLa8EZHa; WITH CURLa)LETTER GLOTTAL STOPa2PHARYNGEAL VOICED FRICATIVEa2INVERTED GLOTTAL STO",
   "Pa2STRETCHED Ca2BILABIAL CLICKa2SMALL CAPITAL Ba)SMALL LETTER CLOSED OPEN Ea)LETTER SMALL CAPITA",
   "L G WITH HOOKa@Ha)SMALL LETTER J WITH CROSSED-TAILa8TURNED Ka)LETTER SMALL CAPITAL La)SMALL LETT",
   "ER Q WITH HOOKa)LETTER GLOTTAL STOP WITH STROKEa2REVERSED GLOTTAL STOP WITH STROKEa)SMALL LETTER",
   " DZ DIGRAPHa9EZH DIGRAPHa9Z DIGRAPH WITH CURLa8TS DIGRAPHa9ESH DIGRAPHa9C DIGRAPH WITH CURLa8FEN",
   "G DIGRAPHa8LS DIGRAPHa9Z DIGRAPHa)LETTER BILABIAL PERCUSSIVEa4DENTAL PERCUSSIVEa)SMALL LETTER TU",
   "RNED H WITH FISHHOOKaN AND TAILa!MODIFIER LETTER SMALL Ha< WITH HOOKa;Ja;Ra;TURNED RaC WITH HOOK",
   "a;CAPITAL INVERTED Ra;Wa;Ya5PRIMEa5DOUBLE PRIMEa5TURNED COMMAa5APOSTROPHEa5REVERSED COMMAa6IGHT ",
   "HALF RINGa5LEFT HALF RINGa5GLOTTAL STOPa5REVERSED GLOTTAL STOPa5LEFT ARROWHEADa5RIGHT ARROWHEADa",
   "5UP ARROWHEADa5DOWN ARROWHEADa5CIRCUMFLEX ACCENTa!CARONa!MODIFIER LETTER VERTICAL LINEa5MACRONa5",
   "ACUTE ACCENTa5GRAVE ACCENTa5LOW VERTICAL LINEa9MACRONa9GRAVE ACCENTa9ACUTE ACCENTa5TRIANGULAR CO",
   "LONa5HALF TRIANGULAR COLONa5CENTRED RIGHT HALF RINGa=LEFT HALF RINGa5UP TACKa5DOWN TACKa5PLUS SI",
   "GNa5MINUS SIGNa!BREVEa!DOT ABOVEa!RING ABOVEa!OGONEKa!SMALL TILDEa!DOUBLE ACUTE ACCENTa!MODIFIER",
   " LETTER RHOTIC HOOKa5CROSS ACCENTa5SMALL GAMMAa;La;Sa;Xa;REVERSED GLOTTAL STOPa5EXTRA-HIGH TONE ",
   "BARa5HIGH TONE BARa5MID TONE BARa5LOW TONE BARa5EXTRA-LOW TONE BARa5YIN DEPARTING TONE MARKa6ANG",
   " DEPARTING TONE MARKa5VOICINGa5UNASPIRATEDa5DOUBLE APOSTROPHEa5LOW DOWN ARROWHEADa9UP ARROWHEADa",
   "9LEFT ARROWHEADa9RIGHT ARROWHEADa;NGa5MIDDLE GRAVE ACCENTa<DOUBLE GRAVE ACCENTaCACUTE ACCENTa5LO",
   "W TILDEa5RAISED COLONa5BEGIN HIGH TONEa5END HIGH TONEa5BEGIN LOW TONEa5END LOW TONEa5SHELFa5OPEN",
   " SHELFa5LOW LEFT ARROWa!COMBINING GRAVE ACCENTa.ACUTE ACCENTa.CIRCUMFLEX ACCENTa.TILDEa.MACRONa.",
   "OVERLINEa.BREVEa.DOT ABOVEa0IAERESISa.HOOK ABOVEa.RING ABOVEa.DOUBLE ACUTE ACCENTa.CARONa.VERTIC",
   "AL LINE ABOVEa.DOUBLE VERTICAL LINE ABOVEa6GRAVE ACCENTa.CANDRABINDUa.INVERTED BREVEa.TURNED COM",
   "MA ABOVEa.COMMA ABOVEa.REVERSED COMMA ABOVEa.COMMA ABOVE RIGHTa.GRAVE ACCENT BELOWa.ACUTE ACCENT",
   " BELOWa.LEFT TACK BELOWa.RIGHT TACK BELOWa.LEFT ANGLE ABOVEa.HORNa.LEFT HALF RING BELOWa.UP TACK",
   " BELOWa.DOWN TACK BELOWa.PLUS SIGN BELOWa.MINUS SIGN BELOWa.PALATALIZED HOOK BELOWa.RETROFLEX HO",
   "OK BELOWa.DOT BELOWa0IAERESIS BELOWa.RING BELOWa.COMMA BELOWa0EDILLAa.OGONEKa.VERTICAL LINE BELO",
   "Wa.BRIDGE BELOWa.INVERTED DOUBLE ARCH BELOWa.CARON BELOWa0IRCUMFLEX ACCENT BELOWa.BREVE BELOWa.I",
   "NVERTED BREVE BELOWa.TILDE BELOWa.MACRON BELOWa.LOW LINEa.DOUBLE LOW LINEa.TILDE OVERLAYa.SHORT ",
   "STROKE OVERLAYa.LONG STROKE OVERLAYa.SHORT SOLIDUS OVERLAYa.LONG SOLIDUS OVERLAYa.RIGHT HALF RIN",
   "G BELOWa.INVERTED BRIDGE BELOWa.SQUARE BELOWa0EAGULL BELOWa.X ABOVEa.VERTICAL TILDEa.DOUBLE OVER",
   "LINEa.GRAVE TONE MARKa.ACUTE TONE MARKa.GREEK PERISPOMENIa5KORONISa5DIALYTIKA TONOSa5YPOGEGRAMME",
   "NIa.BRIDGE ABOVEa.EQUALS SIGN BELOWa.DOUBLE VERTICAL LINE BELOWa.LEFT ANGLE BELOWa.NOT TILDE ABO",
   "VEa.HOMOTHETIC ABOVEa.ALMOST EQUAL TO ABOVEa.LEFT RIGHT ARROW BELOWa.UPWARDS ARROW BELOWa.GRAPHE",
   "ME JOINERa.RIGHT ARROWHEAD ABOVEa.LEFT HALF RING ABOVEa.FERMATAa.X BELOWa.LEFT ARROWHEAD BELOWa.",
   "RIGHT ARROWHEAD BELOWa?AND UP ARROWHEAD BELOWa5HALF RING ABOVEa.DOT ABOVE RIGHTa.ASTERISK BELOWa",
   ".DOUBLE RING BELOWa.ZIGZAG ABOVEa.DOUBLE BREVE BELOWa:Ea6MACRONa< BELOWa6TILDEa6INVERTED BREVEa6",
   "RIGHTWARDS ARROW BELOWa.LATIN SMALL LETTER AaBEaBIaBOaBUaBCaBDaBHaBMaBRaBTaBVaBXa!GREEK CAPITAL ",
   "LETTER HETAa)SMALL LETTER HETAa)CAPITAL LETTER ARCHAIC SAMPIa)SMALL LETTER ARCHAIC SAMPIa)NUMERA",
   "L SIGNa)LOWER NUMERAL SIGNa)CAPITAL LETTER PAMPHYLIAN DIGAMMAa)SMALL LETTER PAMPHYLIAN DIGAMMAc)",
   "YPOGEGRAMMENIa)SMALL REVERSED LUNATE SIGMA SYMBOLa1DOTTED LUNATE SIGMA SYMBOLa1REVERSED DOTTED L",
   "UNATE SIGMA SYMBOLa)QUESTION MARKa)CAPITAL LETTER YOTe)TONOSa)DIALYTIKA TONOSa)CAPITAL LETTER AL",
   "PHA WITH TONOSa)ANO TELEIAa)CAPITAL LETTER EPSILON WITH TONOSa;TA WITH TONOSa:IOTA WITH TONOSb:O",
   "MICRON WITH TONOSb:UPSILON WITH TONOSa:OMEGA WITH TONOSa)SMALL LETTER IOTA WITH DIALYTIKA AND TO",
   "NOSa)CAPITAL LETTER ALPHAa:BETAa:GAMMAa:DELTAa:EPSILONa:ZETAa:ETAa:THETAa:IOTAa:KAPPAa:LAMDAa:MU",
   "a:NUa:XIa:OMICRONa:PIa:RHOb:SIGMAa:TAUa:UPSILONa:PHIa:CHIa:PSIa:OMEGAa:IOTA WITH DIALYTIKAa:UPSI",
   "LON WITH DIALYTIKAa)SMALL LETTER ALPHA WITH TONOSa8EPSILON WITH TONOSa9TA WITH TONOSa8IOTA WITH ",
   "TONOSa8UPSILON WITH DIALYTIKA AND TONOSa8ALPHAa8BETAa8GAMMAa8DELTAa8EPSILONa8ZETAa8ETAa8THETAa8I",
   "OTAa8KAPPAa8LAMDAa8MUa8NUa8XIa8OMICRONa8PIa8RHOa8FINAL SIGMAa8SIGMAa8TAUa8UPSILONa8PHIa8CHIa8PSI",
   "a8OMEGAa8IOTA WITH DIALYTIKAa8UPSILON WITH DIALYTIKAa8OMICRON WITH TONOSa8UPSILON WITH TONOSa8OM",
   "EGA WITH TONOSa)CAPITAL KAI SYMBOLa)BETA SYMBOLa)THETA SYMBOLa)UPSILON WITH HOOK SYMBOLa8ACUTE A",
   "ND HOOK SYMBOLa8DIAERESIS AND HOOK SYMBOLa)PHI SYMBOLa*I SYMBOLa)KAI SYMBOLa)LETTER ARCHAIC KOPP",
   "Aa)SMALL LETTER ARCHAIC KOPPAa)LETTER STIGMAa)SMALL LETTER STIGMAa)LETTER DIGAMMAa)SMALL LETTER ",
   "DIGAMMAa)LETTER KOPPAa)SMALL LETTER KOPPAa)LETTER SAMPIa)SMALL LETTER SAMPIa!COPTIC CAPITAL LETT",
   "ER SHEIa*SMALL LETTER SHEIa*CAPITAL LETTER FEIa*SMALL LETTER FEIa*CAPITAL LETTER KHEIa*SMALL LET",
   "TER KHEIa*CAPITAL LETTER HORIa*SMALL LETTER HORIa*CAPITAL LETTER GANGIAa*SMALL LETTER GANGIAa*CA",
   "PITAL LETTER SHIMAa*SMALL LETTER SHIMAa*CAPITAL LETTER DEIa*SMALL LETTER DEIa!GREEK KAPPA SYMBOL",
   "a)RHO SYMBOLa)LUNATE SIGMA SYMBOLa*ETTER YOTa)CAPITAL THETA SYMBOLa)LUNATE EPSILON SYMBOLa)REVER",
   "SED LUNATE EPSILON SYMBOLa)CAPITAL LETTER SHOa)SMALL LETTER SHOa)CAPITAL LUNATE SIGMA SYMBOLa4ET",
   "TER SANa)SMALL LETTER SANa)RHO WITH STROKE SYMBOLa)CAPITAL REVERSED LUNATE SIGMA SYMBOLa3DOTTED ",
   "LUNATE SIGMA SYMBOLa3REVERSED DOTTED LUNATE SIGMA SYMBOLa!CYRILLIC CAPITAL LETTER IE WITH GRAVEa",
   ">Oa=DJEa=GJEa=UKRAINIAN IEa=DZEa=BYELORUSSIAN-UKRAINIAN Ia=YIa=JEa=LJEa=NJEa=TSHEa=KJEa=I WITH G",
   "RAVEa=SHORT Ua=DZHEa=Aa=BEa=VEa=GHEa=DEa=IEa=ZHEa>Ea=Ia=SHORT Ia=KAa=ELa>Ma>Na=Oa=PEa=ERa>Sa=TEa",
   "=Ua=EFa=HAa=TSEa=CHEa=SHAa?CHAa=HARD SIGNa=YERUa=SOFT SIGNa=Ea=YUa>Aa,SMALL LETTER Aa;BEa;VEa;GH",
   "Ea;DEa;IEa;ZHEa<Ea;Ia;SHORT Ia;KAa;ELa<Ma<Na;Oa;PEa;ERa<Sa;TEa;Ua;EFa;HAa;TSEa;CHEa;SHAa=CHAa;HA",
   "RD SIGNa;YERUa;SOFT SIGNa;Ea;YUa<Aa;IE WITH GRAVEa<Oa;DJEa;GJEa;UKRAINIAN IEa;DZEa;BYELORUSSIAN-",
   "UKRAINIAN Ia;YIa;JEa;LJEa;NJEa;TSHEa;KJEa;I WITH GRAVEa;SHORT Ua;DZHEa,CAPITAL LETTER OMEGAa,SMA",
   "LL LETTER OMEGAa,CAPITAL LETTER YATa,SMALL LETTER YATa,CAPITAL LETTER IOTIFIED Ea,SMALL LETTER I",
   "OTIFIED Ea,CAPITAL LETTER LITTLE YUSa,SMALL LETTER LITTLE YUSa,CAPITAL LETTER IOTIFIED LITTLE YU",
   "Sa,SMALL LETTER IOTIFIED LITTLE YUSa,CAPITAL LETTER BIG YUSa,SMALL LETTER BIG YUSa,CAPITAL LETTE",
   "R IOTIFIED BIG YUSa,SMALL LETTER IOTIFIED BIG YUSa,CAPITAL LETTER KSIa,SMALL LETTER KSIa,CAPITAL",
   " LETTER PSIa,SMALL LETTER PSIa,CAPITAL LETTER FITAa,SMALL LETTER FITAa,CAPITAL LETTER IZHITSAa,S",
   "MALL LETTER IZHITSAa,CAPITAL LETTER IZHITSA WITH DOUBLE GRAVE ACCENTa,SMALL LETTER IZHITSA WITH ",
   "DOUBLE GRAVE ACCENTa,CAPITAL LETTER UKa,SMALL LETTER UKa,CAPITAL LETTER ROUND OMEGAa,SMALL LETTE",
   "R ROUND OMEGAa,CAPITAL LETTER OMEGA WITH TITLOa,SMALL LETTER OMEGA WITH TITLOa,CAPITAL LETTER OT",
   "a,SMALL LETTER OTa,CAPITAL LETTER KOPPAa,SMALL LETTER KOPPAa,THOUSANDS SIGNa#OMBINING CYRILLIC T",
   "ITLOa8PALATALIZATIONa8DASIA PNEUMATAa8PSILI PNEUMATAa9OKRYTIEa8HUNDRED THOUSANDS SIGNa8MILLIONS ",
   "SIGNa#YRILLIC CAPITAL LETTER SHORT I WITH TAILa,SMALL LETTER SHORT I WITH TAILa,CAPITAL LETTER S",
   "EMISOFT SIGNa,SMALL LETTER SEMISOFT SIGNa,CAPITAL LETTER ER WITH TICKa,SMALL LETTER ER WITH TICK",
   "a,CAPITAL LETTER GHE WITH UPTURNa,SMALL LETTER GHE WITH UPTURNa,CAPITAL LETTER GHE WITH STROKEa,",
   "SMALL LETTER GHE WITH STROKEa,CAPITAL LETTER GHE WITH MIDDLE HOOKa,SMALL LETTER GHE WITH MIDDLE ",
   "HOOKa,CAPITAL LETTER ZHE WITH DESCENDERa,SMALL LETTER ZHE WITH DESCENDERa,CAPITAL LETTER ZE WITH",
   " DESCENDERa,SMALL LETTER ZE WITH DESCENDERa,CAPITAL LETTER KA WITH DESCENDERa,SMALL LETTER KA WI",
   "TH DESCENDERa,CAPITAL LETTER KA WITH VERTICAL STROKEa,SMALL LETTER KA WITH VERTICAL STROKEa,CAPI",
   "TAL LETTER KA WITH STROKEa,SMALL LETTER KA WITH STROKEa,CAPITAL LETTER BASHKIR KAa,SMALL LETTER ",
   "BASHKIR KAa,CAPITAL LETTER EN WITH DESCENDERa,SMALL LETTER EN WITH DESCENDERa,CAPITAL LIGATURE E",
   "N GHEa,SMALL LIGATURE EN GHEa,CAPITAL LETTER PE WITH MIDDLE HOOKa,SMALL LETTER PE WITH MIDDLE HO",
   "OKa,CAPITAL LETTER ABKHASIAN HAa,SMALL LETTER ABKHASIAN HAa,CAPITAL LETTER ES WITH DESCENDERa,SM",
   "ALL LETTER ES WITH DESCENDERa,CAPITAL LETTER TE WITH DESCENDERa,SMALL LETTER TE WITH DESCENDERa,",
   "CAPITAL LETTER STRAIGHT Ua,SMALL LETTER STRAIGHT Ua,CAPITAL LETTER STRAIGHT U WITH STROKEa,SMALL",
   " LETTER STRAIGHT U WITH STROKEa,CAPITAL LETTER HA WITH DESCENDERa,SMALL LETTER HA WITH DESCENDER",
   "a,CAPITAL LIGATURE TE TSEa,SMALL LIGATURE TE TSEa,CAPITAL LETTER CHE WITH DESCENDERa,SMALL LETTE",
   "R CHE WITH DESCENDERa,CAPITAL LETTER CHE WITH VERTICAL STROKEa,SMALL LETTER CHE WITH VERTICAL ST",
   "ROKEa,CAPITAL LETTER SHHAa,SMALL LETTER SHHAa,CAPITAL LETTER ABKHASIAN CHEa,SMALL LETTER ABKHASI",
   "AN CHEa,CAPITAL LETTER ABKHASIAN CHE WITH DESCENDERa,SMALL LETTER ABKHASIAN CHE WITH DESCENDERa,",
   "LETTER PALOCHKAa,CAPITAL LETTER ZHE WITH BREVEa,SMALL LETTER ZHE WITH BREVEa,CAPITAL LETTER KA W",
   "ITH HOOKa,SMALL LETTER KA WITH HOOKa,CAPITAL LETTER EL WITH TAILa,SMALL LETTER EL WITH TAILa,CAP",
   "ITAL LETTER EN WITH HOOKa,SMALL LETTER EN WITH HOOKa,CAPITAL LETTER EN WITH TAILa,SMALL LETTER E",
   "N WITH TAILa,CAPITAL LETTER KHAKASSIAN CHEa,SMALL LETTER KHAKASSIAN CHEa,CAPITAL LETTER EM WITH ",
   "TAILa,SMALL LETTER EM WITH TAILa;PALOCHKAa,CAPITAL LETTER A WITH BREVEa,SMALL LETTER A WITH BREV",
   "Ea,CAPITAL LETTER A WITH DIAERESISa,SMALL LETTER A WITH DIAERESISa,CAPITAL LIGATURE A IEa,SMALL ",
   "LIGATURE A IEa,CAPITAL LETTER IE WITH BREVEa,SMALL LETTER IE WITH BREVEa,CAPITAL LETTER SCHWAa,S",
   "MALL LETTER SCHWAa,CAPITAL LETTER SCHWA WITH DIAERESISa,SMALL LETTER SCHWA WITH DIAERESISa,CAPIT",
   "AL LETTER ZHE WITH DIAERESISa,SMALL LETTER ZHE WITH DIAERESISa,CAPITAL LETTER ZE WITH DIAERESISa",
   ",SMALL LETTER ZE WITH DIAERESISa,CAPITAL LETTER ABKHASIAN DZEa,SMALL LETTER ABKHASIAN DZEa,CAPIT",
   "AL LETTER I WITH MACRONa,SMALL LETTER I WITH MACRONa,CAPITAL LETTER I WITH DIAERESISa,SMALL LETT",
   "ER I WITH DIAERESISa,CAPITAL LETTER O WITH DIAERESISa,SMALL LETTER O WITH DIAERESISa,CAPITAL LET",
   "TER BARRED Oa,SMALL LETTER BARRED Oa,CAPITAL LETTER BARRED O WITH DIAERESISa,SMALL LETTER BARRED",
   " O WITH DIAERESISa,CAPITAL LETTER E WITH DIAERESISa,SMALL LETTER E WITH DIAERESISa,CAPITAL LETTE",
   "R U WITH MACRONa,SMALL LETTER U WITH MACRONa,CAPITAL LETTER U WITH DIAERESISa,SMALL LETTER U WIT",
   "H DIAERESISa,CAPITAL LETTER U WITH DOUBLE ACUTEa,SMALL LETTER U WITH DOUBLE ACUTEa,CAPITAL LETTE",
   "R CHE WITH DIAERESISa,SMALL LETTER CHE WITH DIAERESISa,CAPITAL LETTER GHE WITH DESCENDERa,SMALL ",
   "LETTER GHE WITH DESCENDERa,CAPITAL LETTER YERU WITH DIAERESISa,SMALL LETTER YERU WITH DIAERESISa",
   ",CAPITAL LETTER GHE WITH STROKE AND HOOKa,SMALL LETTER GHE WITH STROKE AND HOOKa,CAPITAL LETTER ",
   "HA WITH HOOKa,SMALL LETTER HA WITH HOOKa,CAPITAL LETTER HA WITH STROKEa,SMALL LETTER HA WITH STR",
   "OKEa,CAPITAL LETTER KOMI DEa,SMALL LETTER KOMI DEa,CAPITAL LETTER KOMI DJEa,SMALL LETTER KOMI DJ",
   "Ea,CAPITAL LETTER KOMI ZJEa,SMALL LETTER KOMI ZJEa,CAPITAL LETTER KOMI DZJEa,SMALL LETTER KOMI D",
   "ZJEa,CAPITAL LETTER KOMI LJEa,SMALL LETTER KOMI LJEa,CAPITAL LETTER KOMI NJEa,SMALL LETTER KOMI ",
   "NJEa,CAPITAL LETTER KOMI SJEa,SMALL LETTER KOMI SJEa,CAPITAL LETTER KOMI TJEa,SMALL LETTER KOMI ",
   "TJEa,CAPITAL LETTER REVERSED ZEa,SMALL LETTER REVERSED ZEa,CAPITAL LETTER EL WITH HOOKa,SMALL LE",
   "TTER EL WITH HOOKa,CAPITAL LETTER LHAa,SMALL LETTER LHAa,CAPITAL LETTER RHAa,SMALL LETTER RHAa,C",
   "APITAL LETTER YAEa,SMALL LETTER YAEa,CAPITAL LETTER QAa,SMALL LETTER QAa,CAPITAL LETTER WEa,SMAL",
   "L LETTER WEa,CAPITAL LETTER ALEUT KAa,SMALL LETTER ALEUT KAa,CAPITAL LETTER EL WITH MIDDLE HOOKa",
   ",SMALL LETTER EL WITH MIDDLE HOOKa,CAPITAL LETTER EN WITH MIDDLE HOOKa,SMALL LETTER EN WITH MIDD",
   "LE HOOKa,CAPITAL LETTER PE WITH DESCENDERa,SMALL LETTER PE WITH DESCENDERa,CAPITAL LETTER SHHA W",
   "ITH DESCENDERa,SMALL LETTER SHHA WITH DESCENDERa,CAPITAL LETTER EN WITH LEFT HOOKa,SMALL LETTER ",
   "EN WITH LEFT HOOKa,CAPITAL LETTER DZZHEa,SMALL LETTER DZZHEa,CAPITAL LETTER DCHEa,SMALL LETTER D",
   "CHEa,CAPITAL LETTER EL WITH DESCENDERa,SMALL LETTER EL WITH DESCENDERb!ARMENIAN CAPITAL LETTER A",
   "YBa=BENa=GIMa=DAa=ECHa=ZAa=EHa>Ta=TOa=ZHEa=INIa=LIWNa=XEHa=CAa=KENa=HOa=JAa=GHADa=CHEHa=MENa=YIa",
   "=NOWa=SHAa=VOa=CHAa=PEHa=JHEHa=RAa=SEHa=VEWa=TIWNa=REHa=COa=YIWNa=PIWRa=KEHa=OHa=FEHc,MODIFIER L",
   "ETTER LEFT HALF RINGa,APOSTROPHEa,EMPHASIS MARKa.XCLAMATION MARKa,COMMAa,QUESTION MARKa,ABBREVIA",
   "TION MARKa,SMALL LETTER TURNED AYBa;AYBa;BENa;GIMa;DAa;ECHa;ZAa;EHa<Ta;TOa;ZHEa;INIa;LIWNa;XEHa;",
   "CAa;KENa;HOa;JAa;GHADa;CHEHa;MENa;YIa;NOWa;SHAa;VOa;CHAa;PEHa;JHEHa;RAa;SEHa;VEWa;TIWNa;REHa;COa",
   ";YIWNa;PIWRa;KEHa;OHa;FEHa5IGATURE ECH YIWNa5ETTER YI WITH STROKEa,FULL STOPa,HYPHENc!RIGHT-FACI",
   "NG ARMENIAN ETERNITY SIGNa!LEFT-FACING ARMENIAN ETERNITY SIGNa!ARMENIAN DRAM SIGNb!HEBREW ACCENT",
   " ETNAHTAa3SEGOLa4HALSHELETa3ZAQEF QATANa9GADOLa3TIPEHAa3REVIAa3ZARQAa3PASHTAa3YETIVa3TEVIRa3GERE",
   "SHa9 MUQDAMa6SHAYIMa3QARNEY PARAa3TELISHA GEDOLAa3PAZERa3ATNAH HAFUKHa3MUNAHa4AHAPAKHa4ERKHAa9 K",
   "EFULAa3DARGAa3QADMAa3TELISHA QETANAa3YERAH BEN YOMOa3OLEa3ILUYa3DEHIa3ZINORa*MARK MASORA CIRCLEa",
   "*POINT SHEVAa2HATAF SEGOLa8PATAHa8QAMATSa3IRIQa2TSEREa2SEGOLa2PATAHa2QAMATSa2HOLAMa7 HASER FOR V",
   "AVa2QUBUTSa2DAGESH OR MAPIQa2METEGa+UNCTUATION MAQAFa+OINT RAFEa+UNCTUATION PASEQa+OINT SHIN DOT",
   "a3IN DOTa+UNCTUATION SOF PASUQa*MARK UPPER DOTa1LOWER DOTa*PUNCTUATION NUN HAFUKHAa+OINT QAMATS ",
   "QATANi*LETTER ALEFa3BETa3GIMELa3DALETa3HEa3VAVa3ZAYINa3HETa3TETa3YODa3FINAL KAFa3KAFa3LAMEDa3FIN",
   "AL MEMa3MEMa3FINAL NUNa3NUNa3SAMEKHa3AYINa3FINAL PEa3PEa3FINAL TSADIa3TSADIa3QOFa3RESHa3SHINa3TA",
   "Ve*YOD TRIANGLEa*LIGATURE YIDDISH DOUBLE VAVa=VAV YODa=DOUBLE YODa*PUNCTUATION GERESHa;SHAYIMl!A",
   "RABIC NUMBER SIGNa*SIGN SANAHa*FOOTNOTE MARKERa*SIGN SAFHAa3MVATa*NUMBER MARK ABOVEa)-INDIC CUBE",
   " ROOTa2FOURTH ROOTa) RAYa)-INDIC PER MILLE SIGNa6TEN THOUSAND SIGNa#FGHANI SIGNa#RABIC COMMAa*DA",
   "TE SEPARATORa*POETIC VERSE SIGNa*SIGN MISRAa1SALLALLAHOU ALAYHE WASSALLAMa1ALAYHE ASSALLAMa1RAHM",
   "ATULLAH ALAYHEa3DI ALLAHOU ANHUa1TAKHALLUSa+MALL HIGH TAHa7LIGATURE ALEF WITH LAM WITH YEH!0!JYE",
   "H BARREEa7ZAINa2FATHAa2DAMMAa2KASRAa+EMICOLONa*LETTER MARKa*END OF TEXT MARKa*TRIPLE DOT PUNCTUA",
   "TION MARKa*QUESTION MARKa*LETTER KASHMIRI YEHa3HAMZAa3ALEF WITH MADDA ABOVEa=HAMZA ABOVEa3WAW WI",
   "TH HAMZA ABOVEa3ALEF WITH HAMZA BELOWa3YEH WITH HAMZA ABOVEa3ALEFa3BEHa3TEH MARBUTAa5Ha4HEHa3JEE",
   "Ma3HAHa3KHAHa3DALa3THALa3REHa3ZAINa3SEENa4HEENa4ADa3DADa3TAHa3ZAHa3AINa3GHAINa3KEHEH WITH TWO DO",
   "TS ABOVEa?HREE DOTS BELOWa3FARSI YEH WITH INVERTED VaBTWO DOTS ABOVEaCHREE DOTS ABOVEa*TATWEELa*",
   "LETTER FEHa3QAFa3KAFa3LAMa3MEEMa3NOONa3HEHa3WAWa3ALEF MAKSURAa3YEHa*FATHATANa*DAMMATANa*KASRATAN",
   "a*FATHAa*DAMMAa*KASRAa*SHADDAa+UKUNa*MADDAH ABOVEa*HAMZA ABOVEa2BELOWa*SUBSCRIPT ALEFa*INVERTED ",
   "DAMMAa*MARK NOON GHUNNAa*ZWARAKAYa*VOWEL SIGN SMALL V ABOVEa7INVERTED SMALL V ABOVEa7DOT BELOWa*",
   "REVERSED DAMMAa*FATHA WITH TWO DOTSa*WAVY HAMZA BELOWa)-INDIC DIGIT ZEROa8ONEa8TWOa9HREEa8FOURa9",
   "IVEa8SIXa9EVENa8EIGHTa8NINEa) PERCENT SIGNa*DECIMAL SEPARATORa*THOUSANDS SEPARATORa*FIVE POINTED",
   " STARa*LETTER DOTLESS BEHa;QAFa3SUPERSCRIPT ALEFa3ALEF WASLAa9ITH WAVY HAMZA ABOVEaHBELOWa3HIGH ",
   "HAMZAa= ALEFa>WAWa3U WITH HAMZA ABOVEa3HIGH HAMZA YEHa3TTEHa7EHa3BEEHa3TEH WITH RINGa<THREE DOTS",
   " ABOVE DOWNWARDSa3PEHa3TEHEHa3BEHEHa3HAH WITH HAMZA ABOVEa<TWO DOTS VERTICAL ABOVEa3NYEHa3DYEHa3",
   "HAH WITH THREE DOTS ABOVEa3TCHEHa8EHa3DDALa4AL WITH RINGa<DOT BELOWaE AND SMALL TAHa5HALa4DAHALa",
   "4ULa4AL WITH THREE DOTS ABOVE DOWNWARDSa<FOUR DOTS ABOVEa3RREHa4EH WITH SMALL Va<RINGa<DOT BELOW",
   "a<SMALL V BELOWa<DOT BELOW AND DOT ABOVEa<TWO DOTS ABOVEa3JEHa3REH WITH FOUR DOTS ABOVEa3SEEN WI",
   "TH DOT BELOW AND DOT ABOVEa=THREE DOTS BELOWaM AND THREE DOTS ABOVEa4AD WITH TWO DOTS BELOWa=HRE",
   "E DOTS ABOVEa3TAH WITH THREE DOTS ABOVEa3AIN WITH THREE DOTS ABOVEa3DOTLESS FEHa3FEH WITH DOT MO",
   "VED BELOWa@BELOWa3VEHa3FEH WITH THREE DOTS BELOWa3PEHEHa3QAF WITH DOT ABOVEa<THREE DOTS ABOVEa3K",
   "EHEHa3SWASH KAFa3KAF WITH RINGa<DOT ABOVEa3NGa3KAF WITH THREE DOTS BELOWa3GAFa6 WITH RINGa3NGOEH",
   "a3GAF WITH TWO DOTS BELOWa4UEHa4AF WITH THREE DOTS ABOVEa3LAM WITH SMALL Va<DOT ABOVEa<THREE DOT",
   "S ABOVEaGBELOWa3NOON WITH DOT BELOWa8GHUNNAa3RNOONa3NOON WITH RINGa=THREE DOTS ABOVEa3HEH DOACHA",
   "SHMEEa3TCHEH WITH DOT ABOVEa3HEH WITH YEH ABOVEa7GOALa; WITH HAMZA ABOVEa3TEH MARBUTA GOALa3WAW ",
   "WITH RINGa3KIRGHIZ OEa3OEa3Ua3YUa3KIRGHIZ YUa3WAW WITH TWO DOTS ABOVEa3VEa3FARSI YEHa3YEH WITH T",
   "AILa<SMALL Va3WAW WITH DOT ABOVEa3Ea3YEH WITH THREE DOTS BELOWa7BARREEa= WITH HAMZA ABOVEa*FULL ",
   "STOPa*LETTER AEa*SMALL HIGH LIGATURE SAD WITH LAM WITH ALEF MAKSURAa@QAF WITH LAM WITH ALEF MAKS",
   "URAa7MEEM INITIAL FORMa7LAM ALEFa7JEEMa7THREE DOTSa7SEENa*END OF AYAHa*START OF RUB EL HIZBa+MAL",
   "L HIGH ROUNDED ZEROa7UPRIGHT RECTANGULAR ZEROa7DOTLESS HEAD OF KHAHa7MEEM ISOLATED FORMa2LOW SEE",
   "Na2HIGH MADDAa2WAWa2YEHa2HIGH YEHa7NOONa*PLACE OF SAJDAHa*EMPTY CENTRE LOW STOPa9HIGH STOPa*ROUN",
   "DED HIGH STOP WITH FILLED CENTREa*SMALL LOW MEEMa*LETTER DAL WITH INVERTED Va3REH WITH INVERTED ",
   "Va!EXTENDED ARABIC-INDIC DIGIT ZEROaAONEaATWOaBHREEaAFOURaBIVEaASIXaBEVENaAEIGHTaANINEa!ARABIC L",
   "ETTER SHEEN WITH DOT BELOWa3DAD WITH DOT BELOWa3GHAIN WITH DOT BELOWa*SIGN SINDHI AMPERSANDa8POS",
   "TPOSITION MENa*LETTER HEH WITH INVERTED Va!SYRIAC END OF PARAGRAPHa*SUPRALINEAR FULL STOPa,BLINE",
   "AR FULL STOPa,PRALINEAR COLONa,BLINEAR COLONa*HORIZONTAL COLONa*COLON SKEWED LEFTa9RIGHTa*SUPRAL",
   "INEAR COLON SKEWED LEFTa,BLINEAR COLON SKEWED RIGHT!0!CLEFTa*CONTRACTIONa*HARKLEAN OBELUSa5METOB",
   "ELUSa5ASTERISCUSb*ABBREVIATION MARKa*LETTER ALAPHa3SUPERSCRIPT ALAPHa3BETHa3GAMALa8 GARSHUNIa3DA",
   "LATHa4OTLESS DALATH RISHa3HEa3WAWa3ZAINa3HETHa3TETHa7 GARSHUNIa3YUDHa7 HEa3KAPHa3LAMADHa3MIMa3NU",
   "Na3SEMKATHa3FINAL SEMKATHa3Ea3PEa3REVERSED PEa3SADHEa3QAPHa3RISHa3SHINa3TAWa3PERSIAN BHETHa;GHAM",
   "ALa;DHALATHa*PTHAHA ABOVEa3BELOWa3DOTTEDa*ZQAPHA ABOVEa3BELOWa3DOTTEDa*RBASA ABOVEa2BELOWa*DOTTE",
   "D ZLAMA HORIZONTALa9ANGULARa*HBASA ABOVEa2BELOWa1-ESASA DOTTEDa*ESASA ABOVEa2BELOWa*RWAHAa*FEMIN",
   "INE DOTa*QUSHSHAYAa*RUKKAKHAa*TWO VERTICAL DOTS ABOVEa>BELOWa+HREE DOTS ABOVEa7BELOWa*OBLIQUE LI",
   "NE ABOVEa9BELOWa*MUSICa*BARREKHc*LETTER SOGDIAN ZHAINa;KHAPHa;FEa!ARABIC LETTER BEH WITH THREE D",
   "OTS HORIZONTALLY BELOWa<DOT BELOW AND THREE DOTS ABOVEa<THREE DOTS POINTING UPWARDS BELOWa^ AND ",
   "TWO DOTS ABOVEa=WO DOTS BELOW AND DOT ABOVEa<INVERTED SMALL V BELOWa<SMALL Va3HAH WITH TWO DOTS ",
   "ABOVEa=HREE DOTS POINTING UPWARDS BELOWa3DAL WITH TWO DOTS VERTICALLY BELOW AND SMALL TAHa<INVER",
   "TED SMALL V BELOWa3REH WITH STROKEa3SEEN WITH FOUR DOTS ABOVEa3AIN WITH TWO DOTS ABOVEa=HREE DOT",
   "S POINTING DOWNWARDS ABOVEa=WO DOTS VERTICALLY ABOVEa3FEH WITH TWO DOTS BELOWa=HREE DOTS POINTIN",
   "G UPWARDS BELOWa3KEHEH WITH DOT ABOVEa>THREE DOTS ABOVEaIPOINTING UPWARDS BELOWa3MEEM WITH DOT A",
   "BOVEaABELOWa3NOON WITH TWO DOTS BELOWa=SMALL TAHaCVa3LAM WITH BARa3REH WITH TWO DOTS VERTICALLY ",
   "ABOVEa<HAMZA ABOVEa3SEEN WITH TWO DOTS VERTICALLY ABOVEa3HAH WITH SMALL ARABIC LETTER TAH BELOWa",
   "TAND TWO DOTSa3SEEN WITH SMALL ARABIC LETTER TAH AND TWO DOTSa3REH WITH SMALL ARABIC LETTER TAH ",
   "AND TWO DOTSa3HAH WITH SMALL ARABIC LETTER TAH ABOVEa3ALEF WITH EXTENDED ARABIC-INDIC DIGIT TWO ",
   "ABOVEaZHREE ABOVEa3FARSI YEH WITH EXTENDED ARABIC-INDIC DIGIT TWO ABOVEaaHREE ABOVEa_FOUR BELOWa",
   "3WAW WITH EXTENDED ARABIC-INDIC DIGIT TWO ABOVEaYHREE ABOVEa3YEH BARREE WITH EXTENDED ARABIC-IND",
   "IC DIGIT TWO ABOVEabHREE ABOVEa3HAH WITH EXTENDED ARABIC-INDIC DIGIT FOUR BELOWa3SEEN WITH EXTEN",
   "DED ARABIC-INDIC DIGIT FOUR ABOVEa=INVERTED Va3KAF WITH TWO DOTS ABOVEa!THAANA LETTER HAAa3SHAVI",
   "YANIa3NOONUa3RAAa3BAAa3LHAVIYANIa3KAAFUa3ALIFUa3VAAVUa3MEEMUa3FAAFUa3DHAALUa3THAAa3LAAMUa3GAAFUa",
   "4NAVIYANIa3SEENUa3DAVIYANIa3ZAVIYANIa3TAVIYANIa3YAAa3PAVIYANIa3JAVIYANIa3CHAVIYANIa3TTAAa3HHAAa3",
   "KHAAa3THAALUa3ZAAa3SHEENUa4AADHUa3DAADHUa3TOa3ZOa3AINUa3GHAINUa3QAAFUa3WAAVUa*ABAFILIa+ABAAFILIa",
   "*IBIFILIa*EEBEEFILIa*UBUFILIa*OOBOOFILIa*EBEFILIa+YBEYFILIa*OBOFILIa+ABOAFILIa*SUKUNa*LETTER NAA",
   "o!NKO DIGIT ZEROa.ONEa.TWOa0HREEa.FOURa0IVEa.SIXa0EVENa.EIGHTa.NINEa&LETTER Aa0EEa0Ia0Ea0Ua0OOa0",
   "Oa0DAGBASINNAa0Na0BAa0PAa0TAa0JAa0CHAa0DAa0RAa1RAa0SAa0GBAa0FAa0KAa0LAa0NA WOLOSOa0MAa0NYAa1Aa0H",
   "Aa0WAa0YAa0NYA WOLOSOa0JONA JAa5CHAa5RAa&COMBINING SHORT HIGH TONEa9LOW TONEa9RISING TONEa3LONG ",
   "DESCENDING TONEa8HIGH TONEa8LOW TONEa8RISING TONEa3NASALIZATION MARKa3DOUBLE DOT ABOVEa&HIGH TON",
   "E APOSTROPHEa&LOW TONE APOSTROPHEa&SYMBOL OO DENNENa0GBAKURUNENa&COMMAa&EXCLAMATION MARKa&LAJANY",
   "ALANc&DANTAYALANa(OROME SIGNa&TAMAN SIGNa!SAMARITAN LETTER ALAFa6BITa6GAMANa6DALATa6IYa6BAAa6ZEN",
   "a6ITa6TITa6YUTa6KAAFa6LABATa6MIMa6NUNa6SINGAATa6INa6FIa6TSAADIYa6QUFa6RISHa6SHANa6TAAFa.MARK INa",
   "6-ALAFa4OCCLUSIONa4DAGESHa0ODIFIER LETTER EPENTHETIC YUTa0ARK EPENTHETIC YUTa.VOWEL SIGN LONG Ea",
   ":Ea:OVERLONG AAa:LONG AAa:AAa:OVERLONG Aa:LONG Aa:Aa.MODIFIER LETTER SHORT Aa.VOWEL SIGN SHORT A",
   "a:LONG Ua:Ua.MODIFIER LETTER Ia.VOWEL SIGN LONG Ia:Ia:Oa:SUKUNa.MARK NEQUDAAc.PUNCTUATION NEQUDA",
   "Aa;AFSAAQa<NGEDa;BAUa;ATMAAUa;SHIYYAALAAa.ABBREVIATION MARKa.PUNCTUATION MELODIC QITSAa;ZIQAAa;Q",
   "ITSAa;ZAEFa;TURUa;ARKAANUa;SOF MASHFAATa;ANNAAUb!MANDAIC LETTER HALQAa4ABa5Ga5Da5Ha4USHENNAa4AZa",
   "4ITa4ATTa5KSAa5Ka5La5Ma5Na5Sa4INa4APa5SZa5Qa5Ra5SHa5Ta4DUSHENNAa4KADa4AINa+AFFRICATION MARKa+VOC",
   "ALIZATION MARKa+GEMINATION MARKc+PUNCTUATIONb!SYRIAC LETTER MALAYALAM NGAa=JAa=NYAa=TTAa=NNAa?NA",
   "a=BHAa=RAa=LLAa?LAa=SSAf!ARABIC LETTER ALEF WITH ATTACHED FATHAaFTOP RIGHT FATHAa=RIGHT MIDDLE S",
   "TROKEa=LEFT MIDDLE STROKEa=ATTACHED KASRAaFBOTTOM RIGHT KASRAaFROUND DOT ABOVEaGIGHT ROUND DOTaF",
   "LEFT ROUND DOTaFROUND DOT BELOWa=DOT ABOVEa=ATTACHED TOP RIGHT FATHA AND DOT ABOVEa=RIGHT MIDDLE",
   " STROKE AND DOT ABOVEa=ATTACHED BOTTOM RIGHT KASRA AND DOT ABOVEaFTOP RIGHT FATHA AND LEFT RINGa",
   "=RIGHT MIDDLE STROKE AND LEFT RINGa=ATTACHED BOTTOM RIGHT KASRA AND LEFT RINGaFRIGHT HAMZAaFLEFT",
   " HAMZAa*TATWEEL WITH OVERSTRUCK HAMZAaDWAWa9TWO DOTS BELOWa*LETTER THIN YEHa*BASELINE ROUND DOTa",
   "*RAISED ROUND DOTa*LETTER NOON WITH INVERTED SMALL Va3HAH WITH INVERTED SMALL V BELOWa3TAH WITH ",
   "DOT BELOWa<THREE DOTS BELOWa3KEHEH WITH TWO DOTS VERTICALLY BELOWa*VERTICAL TAILb*POUND MARK ABO",
   "VEa+IASTRE MARK ABOVEg*SMALL HIGH WORD AL-JUZa2LOW WORD ISHMAAMa<MAALAa;TASHEELa*MADDA WAAJIBa*S",
   "UPERSCRIPT ALEF MOKHASSASa*DOUBLED MADDAa*HALF MADDA OVER MADDAa*LETTER BEH WITH SMALL V BELOWa<",
   "HAMZA ABOVEa3JEEM WITH TWO DOTS ABOVEa3TAH WITH TWO DOTS ABOVEa3FEH WITH DOT BELOW AND THREE DOT",
   "S ABOVEa3QAF WITH DOT BELOWa3LAM WITH DOUBLE BARa3MEEM WITH THREE DOTS ABOVEa3YEH WITH TWO DOTS ",
   "BELOW AND HAMZA ABOVEaODOT ABOVEa3REH WITH LOOPa3WAW WITH DOT WITHINa3ROHINGYA YEHa3LOW ALEFa3DA",
   "L WITH THREE DOTS BELOWa3SAD WITH THREE DOTS BELOWa3GAF WITH INVERTED STROKEa3STRAIGHT WAWa3ZAIN",
   " WITH INVERTED V ABOVEa3AIN WITH THREE DOTS BELOWa3KAF WITH DOT BELOWa3QAF WITH DOT BELOW AND NO",
   " DOTS ABOVEa3BEH WITH SMALL MEEM ABOVEa3PEH WITH SMALL MEEM ABOVEa3TEH WITH SMALL TEH ABOVEa3REH",
   " WITH SMALL NOON ABOVEa3YEH WITH TWO DOTS BELOW AND SMALL NOON ABOVEa3AFRICAN FEHa;QAFa;NOONa3PE",
   "H WITH SMALL Va3TEH WITH SMALL Va4TEH WITH SMALL Va4CHEH WITH SMALL Va3KEHEH WITH SMALL Va3GHAIN",
   " WITH THREE DOTS ABOVEa3AFRICAN QAF WITH THREE DOTS ABOVEa3JEEM WITH THREE DOTS ABOVEaHBELOWa3LA",
   "M WITH SMALL ARABIC LETTER TAH ABOVEa3GRAFa*SMALL FARSI YEHa2HIGH FARSI YEHa7YEH BARREE WITH TWO",
   " DOTS BELOWa7WORD SAHa7ZAHa*LARGE ROUND DOT ABOVEa<BELOWa*SUKUN BELOWa*LARGE CIRCLE BELOWa2ROUND",
   " DOT INSIDE CIRCLE BELOWa*SMALL LOW WAWa2HIGH WORD AR-RUBa7SADa7AINa7QAFa7NOON WITH KASRAa2LOW N",
   "OON WITH KASRAa2HIGH WORD ATH-THALATHAa=S-SAJDAa=N-NISFa<SAKTAa<QIFa<WAQFAa7FOOTNOTE MARKERa7SIG",
   "N SAFHAa*DISPUTED END OF AYAHa*TURNED DAMMA BELOWa*CURLY FATHAa2DAMMAa2KASRAa2FATHATANa2DAMMATAN",
   "a2KASRATANa*TONE ONE DOT ABOVEa1TWO DOTS ABOVEa1LOOP ABOVEa1ONE DOT BELOWa1TWO DOTS BELOWa1LOOP ",
   "BELOWa*OPEN FATHATANa1DAMMATANa1KASRATANa*SMALL HIGH WAWa*FATHA WITH RINGa7DOT ABOVEa*KASRA WITH",
   " DOT BELOWa*LEFT ARROWHEAD ABOVEa*RIGHT ARROWHEAD ABOVEa*LEFT ARROWHEAD BELOWa*RIGHT ARROWHEAD B",
   "ELOWa*DOUBLE RIGHT ARROWHEAD ABOVEaH WITH DOTa*RIGHT ARROWHEAD ABOVE WITH DOTa*DAMMA WITH DOTa*M",
   "ARK SIDEWAYS NOON GHUNNAa!DEVANAGARI SIGN INVERTED CANDRABINDUa5CANDRABINDUa5ANUSVARAa5VISARGAa0",
   "LETTER SHORT Aa7Aa8Aa7Ia8Ia7Ua8Ua7VOCALIC Ra?La7CANDRA Ea7SHORT Ea7Ea7AIa7CANDRA Oa7SHORT Oa7Oa7",
   "AUa7KAa8HAa7GAa8HAa7NGAa7CAa8HAa7JAa8HAa7NYAa7TTAa9HAa7DDAa9HAa7NNAa7TAa8HAa7DAa8HAa7NAa8NNAa7PA",
   "a8HAa7BAa8HAa7MAa7YAa7RAa8RAa7LAa8LAa9LAa7VAa7SHAa8SAa8Aa7HAa0VOWEL SIGN OEa<OEa0SIGN NUKTAa5AVA",
   "GRAHAa0VOWEL SIGN AAa;Ia<Ia;Ua<Ua;VOCALIC RaDRa;CANDRA Ea;SHORT Ea;Ea;AIa;CANDRA Oa;SHORT Oa;Oa;",
   "AUa0SIGN VIRAMAa0VOWEL SIGN PRISHTHAMATRA Ea;AWa0OMa0STRESS SIGN UDATTAa<ANUDATTAa0GRAVE ACCENTa",
   "0ACUTE ACCENTa0VOWEL SIGN CANDRA LONG Ea;UEa<UEa0LETTER QAa7KHHAa7GHHAa7ZAa7DDDHAa7RHAa7FAa7YYAa",
   "7VOCALIC RRa?LLa0VOWEL SIGN VOCALIC LaDLa0DANDAa1OUBLE DANDAa1IGIT ZEROa6ONEa6TWOa7HREEa6FOURa7I",
   "VEa6SIXa7EVENa6EIGHTa6NINEa0ABBREVIATION SIGNa0SIGN HIGH SPACING DOTa0LETTER CANDRA Aa7OEa8OEa7A",
   "Wa7UEa8UEa7MARWARI DDAa7ZHAa7HEAVY YAa7GGAa7JJAa7GLOTTAL STOPa7DDDAa7BBAa!BENGALI ANJIa+SIGN CAN",
   "DRABINDUa2ANUSVARAa2VISARGAb+LETTER Aa5Aa4Ia5Ia4Ua5Ua4VOCALIC Ra<Lc4Ea4AIc4Oa4AUa4KAa5HAa4GAa5HA",
   "a4NGAa4CAa5HAa4JAa5HAa4NYAa4TTAa6HAa4DDAa6HAa4NNAa4TAa5HAa4DAa5HAa4NAb4PAa5HAa4BAa5HAa4MAa4YAa4R",
   "Ab4LAd4SHAa5SAa5Aa4HAc+SIGN NUKTAa2AVAGRAHAa+VOWEL SIGN AAa8Ia9Ia8Ua9Ua8VOCALIC RaARc8Ea8AIc8Oa8",
   "AUa+SIGN VIRAMAa+LETTER KHANDA TAi+AU LENGTH MARKe+LETTER RRAa5HAb4YYAa4VOCALIC RRa<LLa+VOWEL SI",
   "GN VOCALIC LaALc+DIGIT ZEROa3ONEa3TWOa4HREEa3FOURa4IVEa3SIXa4EVENa3EIGHTa3NINEa+LETTER RA WITH M",
   "IDDLE DIAGONALa<LOWER DIAGONALa+RUPEE MARKa3SIGNa+CURRENCY NUMERATOR ONEa@TWOaAHREEa@FOURa@ONE L",
   "ESS THAN THE DENOMINATORa6DENOMINATOR SIXTEENa+ISSHARa+GANDA MARKa+LETTER VEDIC ANUSVARAa+ABBREV",
   "IATION SIGNa+SANDHI MARKc!GURMUKHI SIGN ADAK BINDIa3BINDIa3VISARGAb,LETTER Aa6Aa5Ia6Ia5Ua6Ue5EEa",
   "5AIc5OOa5AUa5KAa6HAa5GAa6HAa5NGAa5CAa6HAa5JAa6HAa5NYAa5TTAa7HAa5DDAa7HAa5NNAa5TAa6HAa5DAa6HAa5NA",
   "b5PAa6HAa5BAa6HAa5MAa5YAa5RAb5LAa6LAb5VAa5SHAb6Aa5HAc,SIGN NUKTAb,VOWEL SIGN AAa9Ia:Ia9Ua:Ue9EEa",
   "9AIc9OOa9AUa,SIGN VIRAMAd3UDAATh,LETTER KHHAa5GHHAa5ZAa5RRAb5FAh,DIGIT ZEROa4ONEa4TWOa5HREEa4FOU",
   "Ra5IVEa4SIXa5EVENa4EIGHTa4NINEa,TIPPIa,ADDAKa,IRIa,URAa,EK ONKARa,SIGN YAKASHa,ABBREVIATION SIGN",
   "k$JARATI SIGN CANDRABINDUa3ANUSVARAa3VISARGAb,LETTER Aa6Aa5Ia6Ia5Ua6Ua5VOCALIC Ra=La,VOWEL CANDR",
   "A Eb,LETTER Ea5AIa,VOWEL CANDRA Ob,LETTER Oa5AUa5KAa6HAa5GAa6HAa5NGAa5CAa6HAa5JAa6HAa5NYAa5TTAa7",
   "HAa5DDAa7HAa5NNAa5TAa6HAa5DAa6HAa5NAb5PAa6HAa5BAa6HAa5MAa5YAa5RAb5LAa6LAb5VAa5SHAa6SAa6Aa5HAc,SI",
   "GN NUKTAa3AVAGRAHAa,VOWEL SIGN AAa9Ia:Ia9Ua:Ua9VOCALIC RaBRa9CANDRA Eb9Ea9AIa9CANDRA Ob9Oa9AUa,S",
   "IGN VIRAMAc,OMp,LETTER VOCALIC RRa=LLa,VOWEL SIGN VOCALIC LaBLc,DIGIT ZEROa4ONEa4TWOa5HREEa4FOUR",
   "a5IVEa4SIXa5EVENa4EIGHTa4NINEa,ABBREVIATION SIGNa,RUPEE SIGNh,LETTER ZHAa,SIGN SUKUNa4HADDAa3MAD",
   "DAHa3THREE-DOT NUKTA ABOVEa3CIRCLE NUKTA ABOVEa3TWO-CIRCLE NUKTA ABOVEb!ORIYA SIGN CANDRABINDUa0",
   "ANUSVARAa0VISARGAb)LETTER Aa3Aa2Ia3Ia2Ua3Ua2VOCALIC Ra:Lc2Ea2AIc2Oa2AUa2KAa3HAa2GAa3HAa2NGAa2CAa",
   "3HAa2JAa3HAa2NYAa2TTAa4HAa2DDAa4HAa2NNAa2TAa3HAa2DAa3HAa2NAb2PAa3HAa2BAa3HAa2MAa2YAa2RAb2LAa3LAb",
   "2VAa2SHAa3SAa3Aa2HAc)SIGN NUKTAa0AVAGRAHAa)VOWEL SIGN AAa6Ia7Ia6Ua7Ua6VOCALIC Ra?Rc6Ea6AIc6Oa6AU",
   "a)SIGN VIRAMAh0OVERLINEa)AI LENGTH MARKa*U LENGTH MARKe)LETTER RRAa3HAb2YYAa2VOCALIC RRa:LLa)VOW",
   "EL SIGN VOCALIC La?Lc)DIGIT ZEROa1ONEa1TWOa2HREEa1FOURa2IVEa1SIXa2EVENa1EIGHTa1NINEa)ISSHARa)LET",
   "TER WAa)FRACTION ONE QUARTERa8HALFa4THREE QUARTERSa4ONE SIXTEENTHa8EIGHTHa4THREE SIXTEENTHSk!TAM",
   "IL SIGN ANUSVARAa0VISARGAb)LETTER Aa3Aa2Ia3Ia2Ua3Ud2Ea3Ea2AIb2Oa3Oa2AUa2KAd2NGAa2CAb2JAb2NYAa2TT",
   "Ad2NNAa2TAd2NAa3NNAa2PAd2MAa2YAa2RAa3RAa2LAa3LAa4LAa2VAa2SHAa3SAa3Aa2HAe)VOWEL SIGN AAa6Ia7Ia6Ua",
   "7Ud6Ea7Ea6AIb6Oa7Oa6AUa)SIGN VIRAMAc)OMg)AU LENGTH MARKo)DIGIT ZEROa1ONEa1TWOa2HREEa1FOURa2IVEa1",
   "SIXa2EVENa1EIGHTa1NINEa)NUMBER TENa2ONE HUNDREDa6THOUSANDa)DAY SIGNa)MONTH SIGNa)YEAR SIGNa)DEBI",
   "T SIGNa)CREDIT SIGNa)AS ABOVE SIGNa)RUPEE SIGNa)NUMBER SIGNf#ELUGU SIGN COMBINING CANDRABINDU AB",
   "OVEa2ANDRABINDUa1ANUSVARAa1VISARGAa1COMBINING ANUSVARA ABOVEa*LETTER Aa4Aa3Ia4Ia3Ua4Ua3VOCALIC R",
   "a;Lb3Ea4Ea3AIb3Oa4Oa3AUa3KAa4HAa3GAa4HAa3NGAa3CAa4HAa3JAa4HAa3NYAa3TTAa5HAa3DDAa5HAa3NNAa3TAa4HA",
   "a3DAa4HAa3NAb3PAa4HAa3BAa4HAa3MAa3YAa3RAa4RAa3LAa4LAa5LAa3VAa3SHAa4SAa4Aa3HAc*SIGN NUKTAa1AVAGRA",
   "HAa*VOWEL SIGN AAa7Ia8Ia7Ua8Ua7VOCALIC Ra@Rb7Ea8Ea7AIb7Oa8Oa7AUa*SIGN VIRAMAh*LENGTH MARKa*AI LE",
   "NGTH MARKb*LETTER TSAa3DZAa3RRRAc3NAKAARA POLLUc3VOCALIC RRa;LLa*VOWEL SIGN VOCALIC La@Lc*DIGIT ",
   "ZEROa2ONEa2TWOa3HREEa2FOURa3IVEa2SIXa3EVENa2EIGHTa2NINEh*SIGN SIDDHAMa*FRACTION DIGIT ZERO FOR O",
   "DD POWERS OF FOURa;ONE FOR ODD POWERS OF FOURa;TWO FOR ODD POWERS OF FOURa<HREE FOR ODD POWERS O",
   "F FOURa;ONE FOR EVEN POWERS OF FOURa;TWO FOR EVEN POWERS OF FOURa<HREE FOR EVEN POWERS OF FOURa*",
   "SIGN TUUMUa!KANNADA SIGN SPACING CANDRABINDUa2CANDRABINDUa2ANUSVARAa2VISARGAa2SIDDHAMa+LETTER Aa",
   "5Aa4Ia5Ia4Ua5Ua4VOCALIC Ra<Lb4Ea5Ea4AIb4Oa5Oa4AUa4KAa5HAa4GAa5HAa4NGAa4CAa5HAa4JAa5HAa4NYAa4TTAa",
   "6HAa4DDAa6HAa4NNAa4TAa5HAa4DAa5HAa4NAb4PAa5HAa4BAa5HAa4MAa4YAa4RAa5RAa4LAa5LAb4VAa4SHAa5SAa5Aa4H",
   "Ac+SIGN NUKTAa2AVAGRAHAa+VOWEL SIGN AAa8Ia9Ia8Ua9Ua8VOCALIC RaARb8Ea9Ea8AIb8Oa9Oa8AUa+SIGN VIRAM",
   "Ah+LENGTH MARKa+AI LENGTH MARKg+LETTER NAKAARA POLLUa4FA!0!4LLLAb4VOCALIC RRa<LLa+VOWEL SIGN VOC",
   "ALIC LaALc+DIGIT ZEROa3ONEa3TWOa4HREEa3FOURa4IVEa3SIXa4EVENa3EIGHTa3NINEb+SIGN JIHVAMULIYAa2UPAD",
   "HMANIYAa2COMBINING ANUSVARA ABOVE RIGHTm!MALAYALAM SIGN COMBINING ANUSVARA ABOVEa5ANDRABINDUa4AN",
   "USVARAa4VISARGAa.LETTER VEDIC ANUSVARAa6Aa7Aa6Ia7Ia6Ua7Ua6VOCALIC Ra>Lb6Ea7Ea6AIb6Oa7Oa6AUa6KAa7",
   "HAa6GAa7HAa6NGAa6CAa7HAa6JAa7HAa6NYAa6TTAa8HAa6DDAa8HAa6NNAa6TAa7HAa6DAa7HAa6NAa7NNAa6PAa7HAa6BA",
   "a7HAa6MAa6YAa6RAa7RAa6LAa7LAa8LAa6VAa6SHAa7SAa7Aa6HAa6TTTAa.SIGN VERTICAL BAR VIRAMAa4CIRCULAR V",
   "IRAMAa4AVAGRAHAa.VOWEL SIGN AAa:Ia;Ia:Ua;Ua:VOCALIC RaCRb:Ea;Ea:AIb:Oa;Oa:AUa.SIGN VIRAMAa.LETTE",
   "R DOT REPHa.SIGN PARAe.LETTER CHILLU Ma=Ya=LLLa.AU LENGTH MARKa.FRACTION ONE ONE-HUNDRED-AND-SIX",
   "TIETHa<FORTIETHa8THREE EIGHTIETHSa8ONE TWENTIETHa=ENTHa8THREE TWENTIETHSa8ONE FIFTHa.LETTER ARCH",
   "AIC IIa6VOCALIC RRa>LLa.VOWEL SIGN VOCALIC LaCLc.DIGIT ZEROa5ONEa5TWOa6HREEa5FOURa6IVEa5SIXa6EVE",
   "Na5EIGHTa5NINEa.NUMBER TENa6ONE HUNDREDa:THOUSANDa.FRACTION ONE QUARTERa<HALFa8THREE QUARTERSa8O",
   "NE SIXTEENTHa<EIGHTHa8THREE SIXTEENTHSa.DATE MARKa.LETTER CHILLU NNa=Na=RRa=La>La=Kb!SINHALA SIG",
   "N CANDRABINDUa2ANUSVARAYAa2VISARGAYAb+LETTER AYANNAa5AYANNAa5EYANNAa6EYANNAa4IYANNAa5IYANNAa4UYA",
   "NNAa5UYANNAa4IRUYANNAa7UYANNAa5LUYANNAa7UYANNAa4EYANNAa5EYANNAa4AIYANNAa4OYANNAa5OYANNAa4AUYANNA",
   "d5LPAPRAANA KAYANNAa4MAHAAPRAANA KAYANNAa4ALPAPRAANA GAYANNAa4MAHAAPRAANA GAYANNAa4KANTAJA NAASI",
   "KYAYAa4SANYAKA GAYANNAa4ALPAPRAANA CAYANNAa4MAHAAPRAANA CAYANNAa4ALPAPRAANA JAYANNAa4MAHAAPRAANA",
   " JAYANNAa4TAALUJA NAASIKYAYAa<SANYOOGA NAAKSIKYAYAa4SANYAKA JAYANNAa4ALPAPRAANA TTAYANNAa4MAHAAP",
   "RAANA TTAYANNAa4ALPAPRAANA DDAYANNAa4MAHAAPRAANA DDAYANNAa5UURDHAJA NAYANNAa4SANYAKA DDAYANNAa4A",
   "LPAPRAANA TAYANNAa4MAHAAPRAANA TAYANNAa4ALPAPRAANA DAYANNAa4MAHAAPRAANA DAYANNAa4DANTAJA NAYANNA",
   "b4SANYAKA DAYANNAa4ALPAPRAANA PAYANNAa4MAHAAPRAANA PAYANNAa4ALPAPRAANA BAYANNAa4MAHAAPRAANA BAYA",
   "NNAa6YANNAa4AMBA BAYANNAa4YAYANNAa4RAYANNAb4DANTAJA LAYANNAc4VAYANNAa4TAALUJA SAYANNAa4MUURDHAJA",
   " SAYANNAa4DANTAJA SAYANNAa4HAYANNAa4MUURDHAJA LAYANNAa4FAYANNAd+SIGN AL-LAKUNAe+VOWEL SIGN AELA-",
   "PILLAa8KETTI AEDA-PILLAa8DIGA AEDA-PILLAa8KETTI IS-PILLAa8DIGA IS-PILLAa8KETTI PAA-PILLAb8DIGA P",
   "AA-PILLAb8GAETTA-PILLAa8KOMBUVAa8DIGA KOMBUVAa8KOMBU DEKAa=VA HAA AELA-PILLAaDDIGA AELA-PILLAaDG",
   "AYANUKITTAa8GAYANUKITTAg+LITH DIGIT ZEROa8ONEa8TWOa9HREEa8FOURa9IVEa8SIXa9EVENa8EIGHTa8NINEc+VOW",
   "EL SIGN DIGA GAETTA-PILLAa?YANUKITTAa+PUNCTUATION KUNDDALIYAm!THAI CHARACTER KO KAIa5HO KHAIa:UA",
   "Ta:WAIa:ONa8RAKHANGa4NGO NGUa4CHO CHANa:INGa:ANGa4SO SOa4CHO CHOEa4YO YINGa4DO CHADAa4TO PATAKa5",
   "HO THANa8NANGMONTHOa8PHUTHAOa4NO NENa4DO DEKa4TO TAOa5HO THUNGa:AHANa:ONGa4NO NUa4BO BAIMAIa4PO ",
   "PLAa5HO PHUNGa4FO FAa4PHO PHANa4FO FANa4PHO SAMPHAOa4MO MAa4YO YAKa4RO RUAa5Ua4LO LINGa5Ua4WO WA",
   "ENa4SO SALAa7RUSIa7SUAa4HO HIPa4LO CHULAa4O ANGa4HO NOKHUKa4PAIYANNOIa4SARA Aa4MAI HAN-AKATa4SAR",
   "A AAa:Ma9Ia:Ia9UEa;Ea9Ua:Ua4PHINTHUe)URRENCY SYMBOL BAHTa)HARACTER SARA Ea9AEa9Oa9AI MAIMUANa@AL",
   "AIa4LAKKHANGYAOa4MAIYAMOKa7TAIKHUa7 EKa8THOa9RIa8CHATTAWAa4THANTHAKHATa4NIKHAHITa4YAMAKKANa4FONG",
   "MANa(DIGIT ZEROa0ONEa0TWOa1HREEa0FOURa1IVEa0SIXa1EVENa0EIGHTa0NINEa(CHARACTER ANGKHANKHUa4KHOMUT",
   "!38!!LAO LETTER KOa1HO SUNGb4TAMb0PALI GHAa0NGOa0COa0PALI CHAa0SO TAMb0PALI JHAa0NYOa0PALI NYAa5",
   "TTAa7HAa5DDAa7HAa5NNAa0DOa0TOa1HO SUNGa4TAMa0PALI DHAa0NOa0BOa0POa1HO SUNGa0FO TAM!0!3FONa0PHO T",
   "AMa0FO SUNG!0!3FAYa0PALI BHAa0MOa0YOa0LO LING!0!0ROb0LO LOOT!0!1Ob0WOa0SANSKRIT SHAa:SAa1O SUNGa",
   "0HO SUNGa0PALI LLAa0Oa0HO TAMa&ELLIPSISa&VOWEL SIGN Aa4MAI KANa4AAa5Ma4Ia5Ia4Ya5Ya4Ua5Ua&SIGN PA",
   "LI VIRAMAa&VOWEL SIGN MAI KONa&SEMIVOWEL SIGN LOa8NYOc&VOWEL SIGN Ea5Ia4Oa4AYa5Ib&KO LAb&TONE MA",
   "I EKa2THOa3Ia2CATAWAa&CANCELLATION MARKa&NIGGAHITAa&YAMAKKANb&DIGIT ZEROa.ONEa.TWOa0HREEa.FOURa0",
   "IVEa.SIXa0EVENa.EIGHTa.NINEc&HO NOa*MOa&LETTER KHMU GOa5NYO!33!!TIBETAN SYLLABLE OMa+MARK GTER Y",
   "IG MGO TRUNCATED Aa?-UM RNAM BCAD MAaCGTER TSHEG MAa2INITIAL YIG MGO MDUN MAa2CLOSING YIG MGO SG",
   "AB MAa3ARET YIG MGO PHUR SHAD MAa2YIG MGO TSHEG SHAD MAa2SBRUL SHADa2BSKUR YIG MGOa3KA- SHOG YIG",
   " MGOa2INTERSYLLABIC TSHEGa2DELIMITER TSHEG BSTARa2SHADa2NYIS SHADa2TSHEG SHADa2NYIS TSHEG SHADa2",
   "RIN CHEN SPUNGS SHADa3GYA GRAM SHADa2CARET -DZUD RTAGS ME LONG CANa2GTER TSHEGa+LOGOTYPE SIGN CH",
   "AD RTAGSa;LHAG RTAGSa+ASTROLOGICAL SIGN SGRA GCAN -CHAR RTAGSa?-KHYUD PAa?SDONG TSHUGSa+SIGN RDE",
   "L DKAR GCIGa=NYISa=SUMa7NAG GCIGa<NYISa7DKAR RDEL NAGa+DIGIT ZEROa3ONEa3TWOa4HREEa3FOURa4IVEa3SI",
   "Xa4EVENa3EIGHTa3NINEa3HALF ONEa8TWOa9HREEa8FOURa9IVEa8SIXa9EVENa8EIGHTa8NINEa8ZEROa+MARK BSDUS R",
   "TAGSa2NGAS BZUNG NYI ZLAa2CARET -DZUD RTAGS BZHI MIG CANa2NGAS BZUNG SGOR RTAGSa2CHE MGOa2TSA -P",
   "HRUa2GUG RTAGS GYONa>ASa2ANG KHANG GYONa>ASa+SIGN YAR TSHESa2MAR TSHESa+LETTER KAa5HAa4GAa5HAa4N",
   "GAa4CAa5HAa4JAb4NYAa4TTAa6HAa4DDAa6HAa4NNAa4TAa5HAa4DAa5HAa4NAa4PAa5HAa4BAa5HAa4MAa4TSAa6HAa4DZA",
   "a6HAa4WAa4ZHAa5Aa4-Aa4YAa4RAa4LAa4SHAa5SAa5Aa4HAa4Aa4KSSAa4FIXED-FORM RAa4KKAa4RRAe+VOWEL SIGN A",
   "Aa8Ia9Ia8Ua9Ua8VOCALIC RaARa@LaALa8Ea9Ea8Oa9Oa+SIGN RJES SU NGA ROa3NAM BCADa+VOWEL SIGN REVERSE",
   "D IaBIa+SIGN NYI ZLA NAA DAa2SNA LDANa+MARK HALANTAa2PALUTAa+SIGN LCI RTAGSa2YANG RTAGSa2LCE TSA",
   " CANa2MCHU CANa2GRU CAN RGYINGSa6MED RGYINGSa2INVERTED MCHU CANa,UBJOINED SIGN LCE TSA CANa<MCHU",
   " CANa<INVERTED MCHU CANa7LETTER KAa?HAa>GAa?HAa>NGAa>CAa?HAa>JAb>NYAa>TTAa@HAa>DDAa@HAa>NNAa>TAa",
   "?HAa>DAa?HAa>NAa>PAa?HAa>BAa?HAa>MAa>TSAa@HAa>DZAa@HAa>WAa>ZHAa?Aa>-Aa>YAa>RAa>LAa>SHAa?SAa?Aa>H",
   "Aa>Aa>KSSAa>FIXED-FORM WAaIYAaIRAb+KU RU KHAa6 BZHI MIG CANa+CANTILLATION SIGN HEAVY BEATa?LIGHT",
   " BEATa?CANG TE-Ua?SBUB -CHALa+SYMBOL DRIL BUa4RDO RJEa4PADMA GDANa4RDO RJE RGYA GRAMa4PHUR PAa4N",
   "OR BUa: NYIS -KHYILa;GSUM -KHYILa;BZHI -KHYILb,IGN RDEL NAG RDEL DKARa;GSUMa+MARK BSKA- SHOG GI ",
   "MGO RGYAN!0!3KA- SHOG GI MGO RGYANa2MNYAM YIG GI MGO RGYANa2NYIS TSHEGa2INITIAL BRDA RNYING YIG ",
   "MGO MDUN MAa2CLOSING BRDA RNYING YIG MGO SGAB MAa!RIGHT-FACING SVASTI SIGNa!LEFT-FACING SVASTI S",
   "IGNa!RIGHT-FACING SVASTI SIGN WITH DOTSa!LEFT-FACING SVASTI SIGN WITH DOTSa!TIBETAN MARK LEADING",
   " MCHAN RTAGSa2TRAILING MCHAN RTAGS!38!!MYANMAR LETTER KAa5HAa4GAa5HAa4NGAa4CAa5HAa4JAa5HAa4NYAa5",
   "NYAa4TTAa6HAa4DDAa6HAa4NNAa4TAa5HAa4DAa5HAa4NAa4PAa5HAa4BAa5HAa4MAa4YAa4RAa4LAa4WAa4SAa4HAa4LLAa",
   "4Aa4SHAN Aa4Ia5Ia4Ua5Ua4Ea4MON Ea4Oa4AUa+VOWEL SIGN TALL AAa8AAa8Ia9Ia8Ua9Ua8Ea8AIa8MON IIa<Oa8E",
   " ABOVEa+SIGN ANUSVARAa2DOT BELOWa2VISARGAa4RAMAa2ASATa+CONSONANT SIGN MEDIAL YAaCRAaCWAaCHAa+LET",
   "TER GREAT SAa+DIGIT ZEROa3ONEa3TWOa4HREEa3FOURa4IVEa3SIXa4EVENa3EIGHTa3NINEa+SIGN LITTLE SECTION",
   "a2SECTIONa,YMBOL LOCATIVEa4COMPLETEDa4AFOREMENTIONEDa4GENITIVEa+LETTER SHAa5SAa4VOCALIC Ra=Ra<La",
   "=La+VOWEL SIGN VOCALIC RaARa@LaALa+LETTER MON NGAa8JHAa8BBAa:Ea+CONSONANT SIGN MON MEDIAL NAaGMA",
   "aGLAa+LETTER SGAW KAREN SHAa+VOWEL SIGN SGAW KAREN EUa+TONE MARK SGAW KAREN HATHIaBKE PHOa+LETTE",
   "R WESTERN PWO KAREN THAaFPWAa+VOWEL SIGN WESTERN PWO KAREN EUaJUEa+SIGN WESTERN PWO KAREN TONE-1",
   "aI2aI3aI4aI5a+LETTER EASTERN PWO KAREN NNAaFYWAaFGHWAa+VOWEL SIGN GEBA KAREN Ia8KAYAH OEa>Ua>EEa",
   "+LETTER SHAN KAa:HAa9GAa9CAa9ZAa9NYAa9DAa9NAa9PHAa9FAa9BAa9THAa9HAa+CONSONANT SIGN SHAN MEDIAL W",
   "Aa+VOWEL SIGN SHAN AAa=Ea> ABOVEa=FINAL Ya+SIGN SHAN TONE-2a<3a<5a<6a7COUNCIL TONE-2aD3a?EMPHATI",
   "C TONEa+LETTER RUMAI PALAUNG FAa+SIGN RUMAI PALAUNG TONE-5a,HAN DIGIT ZEROa8ONEa8TWOa9HREEa8FOUR",
   "a9IVEa8SIXa9EVENa8EIGHTa8NINEa,IGN KHAMTI TONE-1a>3a+VOWEL SIGN AITON Aa?Ia+SYMBOL SHAN ONEa9EXC",
   "LAMATIONa!GEORGIAN CAPITAL LETTER ANa=BANa=GANa=DONa=ENa=VINa=ZENa=TANa=INa=KANa=LASa=MANa=NARa=",
   "ONa=PARa=ZHARa=RAEa=SANa=TARa=UNa=PHARa=KHARa=GHANa=QARa=SHINa=CHINa>ANa=JILa=CILa>HARa=XANa=JHA",
   "Na=HAEa>Ea>IEa=WEa=HARa>OEb=YNf=AENc,LETTER ANa5BANa5GANa5DONa5ENa5VINa5ZENa5TANa5INa5KANa5LASa5",
   "MANa5NARa5ONa5PARa5ZHARa5RAEa5SANa5TARa5UNa5PHARa5KHARa5GHANa5QARa5SHINa5CHINa6ANa5JILa5CILa6HAR",
   "a5XANa5JHANa5HAEa6Ea6IEa5WEa5HARa6OEa5FIa5YNa5ELIFIa5TURNED GANa5AINa,PARAGRAPH SEPARATORa!MODIF",
   "IER LETTER GEORGIAN NARa!GEORGIAN LETTER AENa5HARD SIGNa5LABIAL SIGNa!HANGUL CHOSEONG KIYEOKa5SS",
   "ANGKIYEOKa5NIEUNa5TIKEUTa5SSANGTIKEUTa5RIEULa5MIEUMa5PIEUPa5SSANGPIEUPa6IOSa6SANGSIOSa5IEUNGa5CI",
   "EUCa5SSANGCIEUCa5CHIEUCHa5KHIEUKHa5THIEUTHa5PHIEUPHa5HIEUHa5NIEUN-KIYEOKa5SSANGNIEUNa5NIEUN-TIKE",
   "UTa;PIEUPa5TIKEUT-KIYEOKa5RIEUL-NIEUNa5SSANGRIEULa5RIEUL-HIEUHa5KAPYEOUNRIEULa5MIEUM-PIEUPa5KAPY",
   "EOUNMIEUMa5PIEUP-KIYEOKa;NIEUNa;TIKEUTa;SIOSa?-KIYEOKa@TIKEUTa@PIEUPa<SANGSIOSa<IOS-CIEUCa;CIEUC",
   "a<HIEUCHa;THIEUTHa;PHIEUPHa5KAPYEOUNPIEUPa=SSANGPIEUPa5SIOS-KIYEOKa:NIEUNa:TIKEUTa:RIEULa:MIEUMa",
   ":PIEUPa?-KIYEOKa:SSANGSIOSa:IEUNGa:CIEUCa;HIEUCHa:KHIEUKHa:THIEUTHa:PHIEUPHa:HIEUHa5CHITUEUMSIOS",
   "a>SANGSIOSa6EONGCHIEUMSIOSaASANGSIOSa5PANSIOSa5IEUNG-KIYEOKa;TIKEUTa;MIEUMa;PIEUPa;SIOSa;PANSIOS",
   "a5SSANGIEUNGa5IEUNG-CIEUCa<HIEUCHa;THIEUTHa;PHIEUPHa5YESIEUNGa5CIEUC-IEUNGa6HITUEUMCIEUCa=SSANGC",
   "IEUCa6EONGCHIEUMCIEUCa@SSANGCIEUCa6HIEUCH-KHIEUKHa=HIEUHa8TUEUMCHIEUCHa6EONGCHIEUMCHIEUCHa5PHIEU",
   "PH-PIEUPa5KAPYEOUNPHIEUPHa5SSANGHIEUHa5YEORINHIEUHa5KIYEOK-TIKEUTa5NIEUN-SIOSa;CIEUCa;HIEUHa5TIK",
   "EUT-RIEULa5FILLERa*JUNGSEONG FILLERa6Aa7Ea6YAa8Ea6EOa6Ea6YEOa7Ea6Oa6WAa8Ea6OEa6YOa6Ua6WEOa7Ea7Ia",
   "6YUa6EUa6YIa6Ia6A-Oa8Ua6YA-Oa9YOa6EO-Oa9Ua9EUa6YEO-Oa:Ua6O-EOa8Ea8YEa8Oa8Ua6YO-YAa;Ea:EOa9Oa9Ia6",
   "U-Aa9Ea8EO-EUa8YEa8Ua6YU-Aa9EOa9Ea9YEOa:Ea9Ua9Ia6EU-Ua9EUa6YI-Ua6I-Aa8YAa8Oa8Ua8EUa8ARAEAa6ARAEA",
   "a;-EOa<Ua<Ia6SSANGARAEAa6A-EUa6YA-Ua7EO-YAa6O-YAa:Ea+ONGSEONG KIYEOKa6SSANGKIYEOKa6KIYEOK-SIOSa6",
   "NIEUNa;-CIEUCa<HIEUHa6TIKEUTa6RIEULa;-KIYEOKa<MIEUMa<PIEUPa<SIOSa<THIEUTHa<PHIEUPHa<HIEUHa6MIEUM",
   "a6PIEUPa;-SIOSa6SIOSa7SANGSIOSa6IEUNGa6CIEUCa7HIEUCHa6KHIEUKHa6THIEUTHa6PHIEUPHa6HIEUHa6KIYEOK-R",
   "IEULa=SIOS-KIYEOKa6NIEUN-KIYEOKa<TIKEUTa<SIOSa<PANSIOSa<THIEUTHa6TIKEUT-KIYEOKa=RIEULa6RIEUL-KIY",
   "EOK-SIOSa<NIEUNa<TIKEUTaB-HIEUHa6SSANGRIEULa6RIEUL-MIEUM-KIYEOKaBSIOSa<PIEUP-SIOSaBHIEUHa<KAPYEO",
   "UNPIEUPa<SSANGSIOSa<PANSIOSa<KHIEUKHa<YEORINHIEUHa6MIEUM-KIYEOKa<RIEULa<PIEUPa<SIOSa=SANGSIOSa<P",
   "ANSIOSa<CHIEUCHa<HIEUHa6KAPYEOUNMIEUMa6PIEUP-RIEULa<PHIEUPHa<HIEUHa6KAPYEOUNPIEUPa6SIOS-KIYEOKa;",
   "TIKEUTa;RIEULa;PIEUPa6PANSIOSa6IEUNG-KIYEOK!0!6YESIEUNG-KIYEOKa6IEUNG-SSANGKIYEOK!0!6YESIEUNG-SS",
   "ANGKIYEOKa6SSANGIEUNG!0!;YESIEUNGa6IEUNG-KHIEUKH!0!6YESIEUNG-KHIEUKHa=Ga>-SIOSa?PANSIOSa6PHIEUPH",
   "-PIEUPa6KAPYEOUNPHIEUPHa6HIEUH-NIEUNa<RIEULa<MIEUMa<PIEUPa6YEORINHIEUHa6KIYEOK-NIEUNa=PIEUPa=CHI",
   "EUCHa=KHIEUKHa=HIEUHa6SSANGNIEUNa!ETHIOPIC SYLLABLE HAa8Ua8Ia8AAa8EEa8Ea8Oa9Aa7LAa8Ua8Ia8AAa8EEa",
   "8Ea8Oa8WAa7HHAa9Ua9Ia9AAa9EEa9Ea9Oa9WAa7MAa8Ua8Ia8AAa8EEa8Ea8Oa8WAa7SZAa9Ua9Ia9AAa9EEa9Ea9Oa9WAa",
   "7RAa8Ua8Ia8AAa8EEa8Ea8Oa8WAa7SAa8Ua8Ia8AAa8EEa8Ea8Oa8WAa8HAa9Ua9Ia9AAa9EEa9Ea9Oa9WAa7QAa8Ua8Ia8A",
   "Aa8EEa8Ea8Oa9Aa8WAb9Ia9AAa9EEa9Ec8HAa9Ua9Ia9AAa9EEa9Ea9Ob9WAb:Ia:AAa:EEa:Ec7BAa8Ua8Ia8AAa8EEa8Ea",
   "8Oa8WAa7VAa8Ua8Ia8AAa8EEa8Ea8Oa8WAa7TAa8Ua8Ia8AAa8EEa8Ea8Oa8WAa7CAa8Ua8Ia8AAa8EEa8Ea8Oa8WAa7XAa8",
   "Ua8Ia8AAa8EEa8Ea8Oa9Aa8WAb9Ia9AAa9EEa9Ec7NAa8Ua8Ia8AAa8EEa8Ea8Oa8WAa8YAa9Ua9Ia9AAa9EEa9Ea9Oa9WAa",
   "7GLOTTAL Aa?Ua?Ia?AAa?EEa?Ea?Oa?WAa7KAa8Ua8Ia8AAa8EEa8Ea8Oa9Aa8WAb9Ia9AAa9EEa9Ec8XAa9Ua9Ia9AAa9E",
   "Ea9Ea9Ob9WAb:Ia:AAa:EEa:Ec7WAa8Ua8Ia8AAa8EEa8Ea8Oa9Aa7PHARYNGEAL AaBUaBIaBAAaBEEaBEaBOb7ZAa8Ua8I",
   "a8AAa8EEa8Ea8Oa8WAa8HAa9Ua9Ia9AAa9EEa9Ea9Oa9WAa7YAa8Ua8Ia8AAa8EEa8Ea8Oa9Aa7DAa8Ua8Ia8AAa8EEa8Ea8",
   "Oa8WAa8DAa9Ua9Ia9AAa9EEa9Ea9Oa9WAa7JAa8Ua8Ia8AAa8EEa8Ea8Oa8WAa7GAa8Ua8Ia8AAa8EEa8Ea8Oa9Aa8WAb9Ia",
   "9AAa9EEa9Ec8GAa9Ua9Ia9AAa9EEa9Ea9Oa9WAAa7THAa9Ua9Ia9AAa9EEa9Ea9Oa9WAa7CHAa9Ua9Ia9AAa9EEa9Ea9Oa9W",
   "Aa7PHAa9Ua9Ia9AAa9EEa9Ea9Oa9WAa7TSAa9Ua9Ia9AAa9EEa9Ea9Oa9WAa8ZAa9Ua9Ia9AAa9EEa9Ea9Oa:Aa7FAa8Ua8I",
   "a8AAa8EEa8Ea8Oa8WAa7PAa8Ua8Ia8AAa8EEa8Ea8Oa8WAa7RYAa7MYAa7FYAc,COMBINING GEMINATION AND VOWEL LE",
   "NGTH MARKa8VOWEL LENGTH MARKa8GEMINATION MARKa,SECTION MARKa,WORDSPACEa,FULL STOPa,COMMAa,SEMICO",
   "LONa,COLONa,PREFACE COLONa,QUESTION MARKa,PARAGRAPH SEPARATORa,DIGIT ONEa4TWOa5HREEa4FOURa5IVEa4",
   "SIXa5EVENa4EIGHTa4NINEa,NUMBER TENa6WENTYa6HIRTYa5FORTYa6IFTYa5SIXTYa6EVENTYa5EIGHTYa5NINETYa5HU",
   "NDREDa5TEN THOUSANDd,SYLLABLE SEBATBEIT MWAa7MWIa9EEa9Ea7SEBATBEIT BWAa7BWIa9EEa9Ea7SEBATBEIT FW",
   "Aa7FWIa9EEa9Ea7SEBATBEIT PWAa7PWIa9EEa9Ea,TONAL MARK YIZETa9DERETa9RIKRIKa9SHORT RIKRIKa9DIFATa9",
   "KENATa9CHIRETa9HIDETa9DERET-HIDETa9KURTg!CHEROKEE LETTER Aa5Ea5Ia5Oa5Ua5Va5GAa5KAa5GEa6Ia6Oa6Ua6",
   "Va5HAa6Ea6Ia6Oa6Ua6Va5LAa6Ea6Ia6Oa6Ua6Va5MAa6Ea6Ia6Oa6Ua5NAa5HNAa5NAHa6Ea6Ia6Oa6Ua6Va5QUAa7Ea7Ia",
   "7Oa7Ua7Va5SAa5Sa6Ea6Ia6Oa6Ua6Va5DAa5TAa5DEa5TEa5DIa5TIa5DOa6Ua6Va6LAa5TLAa7Ea7Ia7Oa7Ua7Va6SAa7Ea",
   "7Ia7Oa7Ua7Va5WAa6Ea6Ia6Oa6Ua6Va5YAa6Ea6Ia6Oa6Ua6Va5MVc,SMALL LETTER YEa<Ia<Oa<Ua<Va;MVc#ANADIAN ",
   "SYLLABICS HYPHENa8Ea8AAIa8Ia9Ia8Oa9Oa8Y-CREE OOa8CARRIER EEa@Ia8Aa9Aa8WEa:ST-CREE WEa9Ia9EST-CRE",
   "E WIa9IIa9EST-CREE WIIa9Oa9EST-CREE WOa9OOa9EST-CREE WOOa8NASKAPI WOOa8WAa9EST-CREE WAa9AAa9EST-",
   "CREE WAAa8NASKAPI WAAa8AIa8Y-CREE Wa8GLOTTAL STOPa8FINAL ACUTEa>GRAVEa>BOTTOM HALF RINGa>TOP HAL",
   "F RINGa>RIGHT HALF RINGa@NGa>DOUBLE ACUTEaESHORT VERTICAL STROKESa>MIDDLE DOTa>SHORT HORIZONTAL ",
   "STROKEa>PLUSa>DOWN TACKa8ENa8INa8ONa8ANa8PEa9AAIa9Ia:Ia9Oa:Oa8Y-CREE POOa8CARRIER HEEaAIa8PAa:Aa",
   "9WEa8WEST-CREE PWEa8PWIa8WEST-CREE PWIa8PWIIa8WEST-CREE PWIIa8PWOa8WEST-CREE PWOa8PWOOa8WEST-CRE",
   "E PWOOa8PWAa8WEST-CREE PWAa8PWAAa8WEST-CREE PWAAa8Y-CREE PWAAa8Pa8WEST-CREE Pa8CARRIER Ha8TEa9AA",
   "Ia9Ia:Ia9Oa:Oa8Y-CREE TOOa8CARRIER DEEaAIa8TAa:Aa9WEa8WEST-CREE TWEa8TWIa8WEST-CREE TWIa8TWIIa8W",
   "EST-CREE TWIIa8TWOa8WEST-CREE TWOa8TWOOa8WEST-CREE TWOOa8TWAa8WEST-CREE TWAa8TWAAa8WEST-CREE TWA",
   "Aa8NASKAPI TWAAa8Ta9TEa:Ia:Oa:Aa8KEa9AAIa9Ia:Ia9Oa:Oa8Y-CREE KOOa8KAa:Aa9WEa8WEST-CREE KWEa8KWIa",
   "8WEST-CREE KWIa8KWIIa8WEST-CREE KWIIa8KWOa8WEST-CREE KWOa8KWOOa8WEST-CREE KWOOa8KWAa8WEST-CREE K",
   "WAa8KWAAa8WEST-CREE KWAAa8NASKAPI KWAAa8Ka9Wa8SOUTH-SLAVEY KEHaFIHaFOHaFAHa8CEa9AAIa9Ia:Ia9Oa:Oa",
   "8Y-CREE COOa8CAa:Aa9WEa8WEST-CREE CWEa8CWIa8WEST-CREE CWIa8CWIIa8WEST-CREE CWIIa8CWOa8WEST-CREE ",
   "CWOa8CWOOa8WEST-CREE CWOOa8CWAa8WEST-CREE CWAa8CWAAa8WEST-CREE CWAAa8NASKAPI CWAAa8Ca8SAYISI THa",
   "8MEa9AAIa9Ia:Ia9Oa:Oa8Y-CREE MOOa8MAa:Aa9WEa8WEST-CREE MWEa8MWIa8WEST-CREE MWIa8MWIIa8WEST-CREE ",
   "MWIIa8MWOa8WEST-CREE MWOa8MWOOa8WEST-CREE MWOOa8MWAa8WEST-CREE MWAa8MWAAa8WEST-CREE MWAAa8NASKAP",
   "I MWAAa8Ma8WEST-CREE Ma8MHa8ATHAPASCAN Ma8SAYISI Ma8NEa9AAIa9Ia:Ia9Oa:Oa8Y-CREE NOOa8NAa:Aa9WEa8",
   "WEST-CREE NWEa8NWAa8WEST-CREE NWAa8NWAAa8WEST-CREE NWAAa8NASKAPI NWAAa8Na8CARRIER NGa8NHa8LEa9AA",
   "Ia9Ia:Ia9Oa:Oa8Y-CREE LOOa8LAa:Aa9WEa8WEST-CREE LWEa8LWIa8WEST-CREE LWIa8LWIIa8WEST-CREE LWIIa8L",
   "WOa8WEST-CREE LWOa8LWOOa8WEST-CREE LWOOa8LWAa8WEST-CREE LWAa8LWAAa8WEST-CREE LWAAa8La8WEST-CREE ",
   "La8MEDIAL La8SEa9AAIa9Ia:Ia9Oa:Oa8Y-CREE SOOa8SAa:Aa9WEa8WEST-CREE SWEa8SWIa8WEST-CREE SWIa8SWII",
   "a8WEST-CREE SWIIa8SWOa8WEST-CREE SWOa8SWOOa8WEST-CREE SWOOa8SWAa8WEST-CREE SWAa8SWAAa8WEST-CREE ",
   "SWAAa8NASKAPI SWAAa8Sa8ATHAPASCAN Sa8SWa8BLACKFOOT Sa8MOOSE-CREE SKa8NASKAPI SKWaA-WaAPWAaATWAaA",
   "KWAaACWAa8SHEa:Ia;Ia:Oa;Oa:Aa;Aa:WEa8WEST-CREE SHWEa8SHWIa8WEST-CREE SHWIa8SHWIIa8WEST-CREE SHWI",
   "Ia8SHWOa8WEST-CREE SHWOa8SHWOOa8WEST-CREE SHWOOa8SHWAa8WEST-CREE SHWAa8SHWAAa8WEST-CREE SHWAAa8S",
   "Ha8YEa9AAIa9Ia:Ia9Oa:Oa9-CREE YOOa9Aa:Aa9WEa8WEST-CREE YWEa8YWIa8WEST-CREE YWIa8YWIIa8WEST-CREE ",
   "YWIIa8YWOa8WEST-CREE YWOa8YWOOa8WEST-CREE YWOOa8YWAa8WEST-CREE YWAa8YWAAa8WEST-CREE YWAAa8NASKAP",
   "I YWAAa8Ya8BIBLE-CREE Ya8WEST-CREE Ya8SAYISI YIa8REa9-CREE REa8WEST-CREE LEa8RAAIa9Ia:Ia9Oa:Oa8W",
   "EST-CREE LOa8RAa:Aa8WEST-CREE LAa8RWAAa8WEST-CREE RWAAa8Ra8WEST-CREE Ra8MEDIAL Ra8FEa9AAIa9Ia:Ia",
   "9Oa:Oa9Aa:Aa9WAAa8WEST-CREE FWAAa8Fa8THEa8N-CREE THEa8THIa8N-CREE THIa8THIIa8N-CREE THIIa8THOa;O",
   "a:Aa;Aa:WAAa8WEST-CREE THWAAa8THa9THEa;Ia;Oa;Aa:Ha9YEa:Ia:Oa:Aa8NUNAVIK HEaAIaBIaAOaBOaAAaBAa@Ha",
   "=UT Ha8HKa8QAAIa9Ia:Ia9Oa:Oa9Aa:Aa8Qa8TLHEa;Ia;Oa;Aa8WEST-CREE REaCIaCOaCAa8NGAAIa:Ia;Ia:Oa;Oa:A",
   "a;Aa9Ga9NGa8SAYISI SHEaAIaAOaAAa8WOODS-CREE THEaEIaEOaEAaDHa8LHIa;Ia:Oa;Oa:Aa;Aa9Ha8TH-CREE THEa",
   "BIaCIaBOaCOaBAaCAaAHa8AIVILIK Ba8BLACKFOOT EaBIaBOaBAaBWEaCIaCOaCAaBNEaCIaCOaCAaBKEaCIaCOaCAa8SA",
   "YISI HEa@Ia@Oa@Aa8CARRIER GHUaBOaBEaCEaBIaBAa@RUaAOaAEaBEaAIaAAa@WUaAOaAEaBEaAIaAAa@HWUaBOaBEaCE",
   "aBIaBAa@THUaBOaBEaCEaBIaBAaATUaBOaBEaCEaBIaBAa@PUaAOaAEaBEaAIaAAa@Pa@GUaAOaAEaBEaAIaAAa@KHUaBOaB",
   "EaCEaBIaBAaAKUaBOaBEaCEaBIaBAaAKa@NUaAOaAEaBEaAIaAAa@MUaAOaAEaBEaAIaAAa@YUaAOaAEaBEaAIaAAa@JUa8S",
   "AYISI JUa8CARRIER JOaAEaBEaAIa8SAYISI JIa8CARRIER JAaAJUaBOaBEaCEaBIaBAa@LUaAOaAEaBEaAIaAAa@DLUa",
   "BOaBEaCEaBIaBAa@LHUaBOaBEaCEaBIaBAa@TLHUaCOaCEaDEaCIaCAaBUaBOaBEaCEaBIaBAa@ZUaAOaAEaBEaAIaAAa@Za",
   "@INITIAL Za@DZUaBOaBEaCEaBIaBAa@SUaAOaAEaBEaAIaAAaAHUaBOaBEaCEaBIaBAaAHa@TSUaBOaBEaCEaBIaBAa@CHU",
   "aBOaBEaCEaBIaBAa@TTSUaCOaCEaDEaCIaCAa9HI SIGNa8FULL STOPa8QAIa8NGAIa9NGIa<Ia;Oa<Oa;Aa<Aa8WOODS-C",
   "REE THWEEaFIaGIaFOaGOaFAaGAaCFINAL THa8BLACKFOOT Wa!OGHAM SPACE MARKa)LETTER BEITHa2LUISa2FEARNa",
   "2SAILa2NIONa2UATHa2DAIRa2TINNEa2COLLa3EIRTa2MUINa2GORTa2NGEADALa2STRAIFa2RUISa2AILMa2ONNa2URa2EA",
   "DHADHa2IODHADHa2EABHADHa2ORa2UILLEANNa2IFINa2EAMHANCHOLLa2PEITHa)FEATHER MARKa)REVERSED FEATHER ",
   "MARKd!RUNIC LETTER FEHU FEOH FE Fa2Va2URUZ UR Ua2YRa2Ya2Wa2THURISAZ THURS THORNa2ETHa2ANSUZ Aa2O",
   "S Oa2AC Aa3ESCa2LONG-BRANCH-OSS Oa2SHORT-TWIG-OSS Oa2Oa3Ea3Na2RAIDO RAD REID Ra2KAUNAa2CENa2KAUN",
   " Ka2Ga2ENGa2GEBO GYFU Ga3ARa2WUNJO WYNN Wa2HAGLAZ Ha4EGL Ha2LONG-BRANCH-HAGALL Ha2SHORT-TWIG-HAG",
   "ALL Ha2NAUDIZ NYD NAUD Na2SHORT-TWIG-NAUD Na2DOTTED-Na2ISAZ IS ISS Ia2Ea2JERAN Ja2GERa2LONG-BRAN",
   "CH-AR AEa2SHORT-TWIG-AR Aa2IWAZ EOHa2PERTHO PEORTH Pa2ALGIZ EOLHXa2SOWILO Sa3IGEL LONG-BRANCH-SO",
   "L Sa3HORT-TWIG-SOL Sa2Ca2Za2TIWAZ TIR TYR Ta2SHORT-TWIG-TYR Ta2Da2BERKANAN BEORC BJARKAN Ba2SHOR",
   "T-TWIG-BJARKAN Ba2DOTTED-Pa2OPEN-Pa2EHWAZ EH Ea2MANNAZ MAN Ma2LONG-BRANCH-MADR Ma2SHORT-TWIG-MAD",
   "R Ma2LAUKAZ LAGU LOGR La2DOTTED-La2INGWAZa4Ga2DAGAZ DAEG Da2OTHALAN ETHEL Oa2EARa2IORa2CWEORTHa3",
   "ALCa3EALCa2STANa2LONG-BRANCH-YRa2SHORT-TWIG-YRa2ICELANDIC-YRa2Qa2Xa)SINGLE PUNCTUATIONa)MULTIPLE",
   " PUNCTUATIONa)CROSS PUNCTUATIONa)ARLAUG SYMBOLa)TVIMADUR SYMBOLa)BELGTHOR SYMBOLa)LETTER Ka2SHa2",
   "OOa2FRANKS CASKET OSa@ISa@EHa@ACaAESCh!TAGALOG LETTER Aa4Ia4Ua4KAa4GAa4NGAa4TAa4DAa4NAa4PAa4BAa4",
   "MAa4YAa4RAa4LAa4WAa4SAa4HAa+VOWEL SIGN Ia8Ua+SIGN VIRAMAa2PAMUDPODj+LETTER ARCHAIC RAa!HANUNOO L",
   "ETTER Aa4Ia4Ua4KAa4GAa4NGAa4TAa4DAa4NAa4PAa4BAa4MAa4YAa4RAa4LAa4WAa4SAa4HAa+VOWEL SIGN Ia8Ua+SIG",
   "N PAMUDPODa!PHILIPPINE SINGLE PUNCTUATIONa0DOUBLE PUNCTUATIONj!BUHID LETTER Aa2Ia2Ua2KAa2GAa2NGA",
   "a2TAa2DAa2NAa2PAa2BAa2MAa2YAa2RAa2LAa2WAa2SAa2HAa)VOWEL SIGN Ia6Um!TAGBANWA LETTER Aa5Ia5Ua5KAa5",
   "GAa5NGAa5TAa5DAa5NAa5PAa5BAa5MAa5YAb5LAa5WAa5SAb,VOWEL SIGN Ia9Um!KHMER LETTER KAa3HAa3Oa3HOa2NG",
   "Oa2CAa3HAa3Oa3HOa2NYOa2DAa2TTHAa2DOa2TTHOa2NNOa2TAa3HAa3Oa3HOa2NOa2BAa2PHAa3Oa3HOa2MOa2YOa2ROa2L",
   "Oa2VOa2SHAa3SOa3Aa2HAa2LAa2QAa)INDEPENDENT VOWEL QAQa?Aa>Ia?Ia>Ua?Ka?Ua@Va=RYa?Ya=LYa?Ya=QEa>AIa",
   ">OO TYPE ONEaFTWOa>AUa)VOWEL INHERENT AQa;Aa1SIGN AAa6Ia7Ia6Ya7Ya6Ua7Ua7Aa6OEa6YAa6IEa6Ea6AEa7Ia",
   "6OOa6AUa)SIGN NIKAHITa0REAHMUKa0YUUKALEAPINTUa0MUUSIKATOANa0TRIISAPa0BANTOCa0ROBATa0TOANDAKHIATa",
   "0KAKABATa0AHSDAa0SAMYOK SANNYAa0VIRIAMa0COENGa0BATHAMASATa0KHANa0BARIYOOSANa0CAMNUC PII KUUHa0LE",
   "K TOOa0BEYYALa0PHNAEK MUANa0KOOMUUTa)CURRENCY SYMBOL RIELa)SIGN AVAKRAHASANYAa1TTHACANc)DIGIT ZE",
   "ROa1ONEa1TWOa2HREEa1FOURa2IVEa1SIXa2EVENa1EIGHTa1NINEg)SYMBOL LEK ATTAK SONa<MUOYa<PIIa<BEIa=UON",
   "a<PRAMa@-MUOYaAPIIaABEIaBUONg!MONGOLIAN BIRGAa.ELLIPSISa.COMMAa.FULL STOPa.COLONa.FOUR DOTSa.TOD",
   "O SOFT HYPHENa.SIBE SYLLABLE BOUNDARY MARKERa.MANCHU COMMAa6FULL STOPa.NIRUGUa.FREE VARIATION SE",
   "LECTOR ONEaGTWOaHHREEa.VOWEL SEPARATORa.FREE VARIATION SELECTOR FOURa.DIGIT ZEROa5ONEa5TWOa6HREE",
   "a5FOURa6IVEa5SIXa6EVENa5EIGHTa5NINEg.LETTER Aa6Ea6Ia6Oa6Ua6OEa6UEa6EEa6NAa6ANGa6BAa6PAa6QAa6GAa6",
   "MAa6LAa6SAa7HAa6TAa6DAa6CHAa6JAa6YAa6RAa6WAa6FAa6KAa7HAa6TSAa6ZAa6HAAa6ZRAa6LHAa6ZHIa6CHIa6TODO ",
   "LONG VOWEL SIGNa;Ea;Ia;Oa;Ua;OEa;UEa;ANGa;BAa;PAa;QAa;GAa;MAa;TAa;DAa;CHAa;JAa;TSAa;YAa;WAa;KAa;",
   "GAAa;HAAa;JIAa;NIAa;DZAa6SIBE Ea;Ia<Ya;UEa;Ua;ANGa;KAa;GAa;HAa;PAa;SHAa;TAa;DAa;JAa;FAa;GAAa;HAA",
   "a;TSAa;ZAa;RAAa;CHAa;ZHAa6MANCHU Ia=KAa=RAa=FAa=ZHAa6CHA WITH TWO DOTSh6ALI GALI ANUSVARA ONEa?V",
   "ISARGA ONEa?DAMARUa?UBADAMAa?INVERTED UBADAMAa?BALUDAa?THREE BALUDAa?Aa?Ia?KAa?NGAa?CAa?TTAaAHAa",
   "?DDAa?NNAa?TAa?DAa?PAa@HAa?SSAa?ZHAa@Aa?AHa6TODO ALI GALI TAaDZHAa6MANCHU ALI GALI GHAaFNGAaFCAa",
   "FJHAaFTTAaFDDHAaFTAaFDHAaFSSAaFCYAaFZHAaGAa6ALI GALI HALF UaDYAa6MANCHU ALI GALI BHAa6ALI GALI D",
   "AGALGAa6MANCHU ALI GALI LHAf!CANADIAN SYLLABICS OYa8AYa9AYa8WAYa8POYa9AYa9WOYa8TAYa8KAYa9WAYa8MA",
   "Ya8NOYa9AYa8LAYa8SOYa9AYa9HOYa:AYa:WOYa8YOYa9AYa8RAYa8NWIa8OJIBWAY NWIa8NWIIa8OJIBWAY NWIIa8NWOa",
   "8OJIBWAY NWOa8NWOOa8OJIBWAY NWOOa8RWEEa:Ia;Ia:Oa;Oa:Aa8OJIBWAY Pa@Ta@Ka@Ca@Ma@Na@SaAHa8EASTERN W",
   "a8WESTERN Wa8FINAL SMALL RINGa>RAISED DOTa8R-CREE RWEa8WEST-CREE LOOaCAAa8THWEa;Aa9THWEa;OOa;AAa",
   "9LHWEa;OOa8SAYISI SHWEaAOOa?HOOa8CARRIER GWUa@DENE GEEa@GAAaAWAa8SAYISI JUUa8CARRIER JWAa8BEAVER",
   " DENE LaDRa8CARRIER DENTAL Sk!LIMBU VOWEL-CARRIER LETTERa)LETTER KAa3HAa2GAa3HAa2NGAa2CAa3HAa2JA",
   "a3HAa2YANa2TAa3HAa2DAa3HAa2NAa2PAa3HAa2BAa3HAa2MAa2YAa2RAa2LAa2WAa2SHAa3SAa3Aa2HAa2GYANa2TRAb)VO",
   "WEL SIGN Aa6Ia6Ua6EEa6AIa6OOa6AUa6Ea6Oa)SUBJOINED LETTER YAa<RAa<WAe*MALL LETTER KAa8NGAa8ANUSVA",
   "RAa8TAa8NAa8PAa8MAa8RAa8LAa*IGN MUKPHRENGa0KEMPHRENGa0SA-Ie0LOOd)EXCLAMATION MARKa)QUESTION MARK",
   "a)DIGIT ZEROa1ONEa1TWOa2HREEa1FOURa2IVEa1SIXa2EVENa1EIGHTa1NINEa!TAI LE LETTER KAa3XAa3NGAa3TSAa",
   "3SAa3YAa3TAa4HAa3LAa3PAa4HAa3MAa3FAa3VAa3HAa3QAa3KHAa3TSHAa3NAa3Aa3Ia3EEa4Ha3Ua3OOa3Oa3UEa3Ea3AU",
   "Ea4Ic3TONE-2a83a84a85a86l!NEW TAI LUE LETTER HIGH QAa8LOW QAa8HIGH KAa=XAa=NGAa8LOW KAa<XAa<NGAa",
   "8HIGH TSAa=SAa=YAa8LOW TSAa<SAa<YAa8HIGH TAa>HAa=NAa8LOW TAa=HAa<NAa8HIGH PAa>HAa=MAa8LOW PAa=HA",
   "a<MAa8HIGH FAa=VAa=LAa8LOW FAa<VAa<LAa8HIGH HAa=DAa=BAa8LOW HAa<DAa<BAa8HIGH KVAa=XVAa8LOW KVAa<",
   "XVAa8HIGH SUAa8LOW SUAe1VOWEL SIGN VOWEL SHORTENERa<AAa<IIa<Ua=Ua<Ea<AEa<Oa=Aa<UEa<AYa=AYa<UYa<O",
   "Ya=AYa<UEYa<IYa1LETTER FINAL Va>NGa>Na>Ma>Ka>Da>Ba1TONE MARK-1a;2g1DIGIT ZEROa7ONEa7TWOa8HREEa7F",
   "OURa8IVEa7SIXa8EVENa7EIGHTa7NINEa1THAM DIGIT ONEd1SIGN LAEa9Va!KHMER SYMBOL PATHAMASATa2MUOY KOE",
   "Ta2PII KOETa2BEI KOETa3UON KOETa2PRAM KOETa6-MUOY KOETa7PII KOETa7BEI KOETa8UON KOETa2DAP KOETa5",
   "-MUOY KOETa6PII KOETa6BEI KOETa7UON KOETa6PRAM KOETa2TUTEYASATa2MUOY ROCa2PII ROCa2BEI ROCa3UON ",
   "ROCa2PRAM ROCa6-MUOY ROCa7PII ROCa7BEI ROCa8UON ROCa2DAP ROCa5-MUOY ROCa6PII ROCa6BEI ROCa7UON R",
   "OCa6PRAM ROCa!BUGINESE LETTER KAa5GAa5NGAa7KAa5PAa5BAa5MAa6PAa5TAa5DAa5NAa6RAa5CAa5JAa5NYAa7CAa5",
   "YAa5RAa5LAa5VAa5SAa5Aa5HAa,VOWEL SIGN Ia9Ua9Ea9Oa9AEc,PALLAWAa,END OF SECTIONa!TAI THAM LETTER H",
   "IGH KAa;HAa;XAa5LOW KAa:XAa:HAa5NGAa5HIGH CAa;HAa5LOW CAa9SAa9CHAa5NYAa5RATAa5HIGH RATHAa5DAa5LO",
   "W RATHAa5RANAa5HIGH TAa;HAa5LOW TAa:HAa5NAa5BAa5HIGH PAa;HAa:FAa5LOW PAa9FAa9PHAa5MAa5LOW YAa5HI",
   "GH YAa5RAa6UEa5LAa6UEa5WAa5HIGH SHAa;SAa;Aa:HAa5LLAa5Aa5LOW HAa5Ia6Ia5Ua6Ua5EEa5OOa5LAEa5GREAT S",
   "Aa,CONSONANT SIGN MEDIAL RAaDLAa=LA TANG LAIa,SIGN MAI KANG LAIa,CONSONANT SIGN FINAL NGAa=LOW P",
   "Aa=HIGH RATHA OR LOW PAa=MAa=BAa=SAb,SIGN SAKOTa,VOWEL SIGN Aa9MAI SATa9AAa9TALL AAa9Ia:Ia9UEa:U",
   "Ea9Ua:Ua9Oa:A BELOWa:Ya9Ea9AEa9OOa9AIa9THAM AIa9OA ABOVEa,SIGN MAI KANGa3TONE-1a82a3KHUEN TONE-3",
   "a>4a>5a3RA HAAMa3MAI SAMa3KHUEN-LUE KARANc,COMBINING CRYPTOGRAMMIC DOTa,HORA DIGIT ZEROa9ONEa9TW",
   "Oa:HREEa9FOURa:IVEa9SIXa:EVENa9EIGHTa9NINEg,THAM DIGIT ZEROa9ONEa9TWOa:HREEa9FOURa:IVEa9SIXa:EVE",
   "Na9EIGHTa9NINEg,SIGN WIANGa8WAAKa3SAWANa3KEOWa3HOYa3DOKMAIa3REVERSED ROTATED RANAa3MAI YAMOKa3KA",
   "ANa7KUUa3SATKAANa:KUUa3HANGa3CAANGc!COMBINING DOUBLED CIRCUMFLEX ACCENTa0IAERESIS-RINGa.INFINITY",
   "a.DOWNWARDS ARROWa.TRIPLE DOTa.X-X BELOWa.WIGGLY LINE BELOWa.OPEN MARK BELOWa.DOUBLE OPEN MARK B",
   "ELOWa.LIGHT CENTRALIZATION STROKE BELOWa.STRONG CENTRALIZATION STROKE BELOWa.PARENTHESES ABOVEa.",
   "DOUBLE PARENTHESES ABOVEa.PARENTHESES BELOWa;OVERLAYa.LATIN SMALL LETTER W BELOWaBTURNED W BELOW",
   "a0EFT PARENTHESIS ABOVE LEFTa.RIGHT PARENTHESIS ABOVE RIGHTa.LEFT PARENTHESIS BELOW LEFTa.RIGHT ",
   "PARENTHESIS BELOW RIGHTa.SQUARE BRACKETS ABOVEa.NUMBER SIGN ABOVEa.INVERTED DOUBLE ARCH ABOVEa.P",
   "LUS SIGN ABOVEa.DOUBLE PLUS SIGN ABOVEa@BELOWa.TRIPLE ACUTE ACCENTa.LATIN SMALL LETTER INSULAR G",
   "aJRaJT!50!!BALINESE SIGN ULU RICEMa7CANDRAa3CECEKa3SURANGa3BISAHa,LETTER AKARAa: TEDUNGa5IKARAa:",
   " TEDUNGa5UKARAa: TEDUNGa5RA REPAa< TEDUNGa5LA LENGAa= TEDUNGa5EKARAa5AIKARAa5OKARAa: TEDUNGa5KAa",
   "7 MAHAPRANAa5GAa7 GORAa5NGAa5CAa7 LACAa5JAa7 JERAa5NYAa5TA LATIKa8MURDA MAHAPRANAa5DA MURDA ALPA",
   "PRANAa>MAHAPRANAa5NA RAMBATa5TAa7 TAWAa5DAa7 MADUa5NAa5PAa7 KAPALa5BAa7 KEMBANGa5MAa5YAa5RAa5LAa",
   "5WAa5SA SAGAa:PAa6Aa5HAa,SIGN REREKANa,VOWEL SIGN TEDUNGa9ULUa< SARIa9SUKUa= ILUTa9RA REPAa@ TED",
   "UNGa9LA LENGAaA TEDUNGa9TALINGa? REPAa@TEDUNGa@REPA TEDUNGa9PEPETa> TEDUNGa,ADEG ADEGa,LETTER KA",
   "F SASAKa6HOT SASAKa5TZIR SASAKa5EF SASAKa5VE SASAKa5ZAL SASAKa5ASYURA SASAKa6RCHAIC JNYAd,DIGIT ",
   "ZEROa4ONEa4TWOa5HREEa4FOURa5IVEa4SIXa5EVENa4EIGHTa4NINEa,PANTIa0MADAa,WINDUa,CARIK PAMUNGKAHa4SI",
   "KIa4PARERENa,PAMENENGa,MUSICAL SYMBOL DONGa>ENGa>UNGa>ANGaA SURANGa>INGa>AENGa>EUNGa>AINGa?NG GE",
   "DEa=COMBINING TEGEHaGENDEPaGKEMPULaKLIaGJEGOGANaGKEMPUL WITH JEGOGANaKLI WITH JEGOGANaGBENDEaGGO",
   "NGa=RIGHT-HAND OPEN DUGaNAGaHCLOSED TUKaPAKa=LEFT-HAND OPEN PANGaMUNGaGCLOSED PLAKaPUKaGOPEN PIN",
   "Ga,PANTI LANTANGa0MADA LANTANGb!SUNDANESE SIGN PANYECEKa7GLAYARa8WISADa.LETTER Aa6Ia6Ua6AEa6Oa6E",
   "a7Ua6KAa6QAa6GAa6NGAa6CAa6JAa6ZAa6NYAa6TAa6DAa6NAa6PAa6FAa6VAa6BAa6MAa6YAa6RAa6LAa6WAa6SAa6XAa6H",
   "Aa.CONSONANT SIGN PAMINGKALa@NYAKRAaBIKUa.VOWEL SIGN PANGHULUa=YUKUa=AELAENGa=OLONGa<MEPETa<NEUL",
   "EUNGa.SIGN PAMAAEHa4VIRAMAa.CONSONANT SIGN PASANGAN MAaGWAa.LETTER KHAa6SYAa.DIGIT ZEROa5ONEa5TW",
   "Oa6HREEa5FOURa6IVEa5SIXa6EVENa5EIGHTa5NINEa.AVAGRAHAa.LETTER REUa6LEUa6BHA!0!6ARCHAIC Ia6FINAL K",
   "a<Ma!BATAK LETTER Aa2SIMALUNGUN Aa2HAa2SIMALUNGUN HAa2MANDAILING HAa2BAa2KARO BAa2PAa2SIMALUNGUN",
   " PAa2NAa2MANDAILING NAa2WAa2SIMALUNGUN WAa2PAKPAK WAa2GAa2SIMALUNGUN GAa2JAa2DAa2RAa2SIMALUNGUN ",
   "RAa2MAa2SIMALUNGUN MAa3OUTHERN TAa2NORTHERN TAa2SAa3IMALUNGUN SAa2MANDAILING SAa2YAa2SIMALUNGUN ",
   "YAa2NGAa2LAa2SIMALUNGUN LAa2NYAa2CAa2NDAa2MBAa2Ia2Ua)SIGN TOMPIa)VOWEL SIGN Ea6PAKPAK Ea6EEa6Ia6",
   "KARO Ia6Oa6KARO Oa6Ua7 FOR SIMALUNGUN SAa)CONSONANT SIGN NGa:Ha)PANGOLATa,ONGONANi)SYMBOL BINDU ",
   "NA METEKa8PINARBORASa8JUDULa8PANGOLATa!LEPCHA LETTER KAa4LAa4HAa3GAa4LAa3NGAa3CAa4HAa3JAa3NYAa3T",
   "Aa4HAa3DAa3NAa3PAa4LAa4HAa3FAa4LAa3BAa4LAa3MAa4LAa3TSAa5HAa3DZAa3YAa3RAa3LAa3HAa4LAa3VAa3SAa4HAa",
   "3WAa3Aa*SUBJOINED LETTER YAa=RAa*VOWEL SIGN AAa7Ia7Oa8Oa7Ua8Ua7Ea*CONSONANT SIGN Ka;Ma;La;Na;Pa;",
   "Ra;Ta;NYIN-DOa;KANGa*SIGN RANa1NUKTAd*PUNCTUATION TA-ROLa8NYET THYOOM TA-ROLa8CER-WAa8TSHOOK CER",
   "-WAa=Ka*DIGIT ZEROa2ONEa2TWOa3HREEa2FOURa3IVEa2SIXa3EVENa2EIGHTa2NINEd*LETTER TTAa5HAa3DDAa!OL C",
   "HIKI DIGIT ZEROa4ONEa4TWOa5HREEa4FOURa5IVEa4SIXa5EVENa4EIGHTa4NINEa,LETTER LAa5ATa6Ga6NGa6La5LAA",
   "a5AAKa7Ja7Ma7Wa5LIa5ISa6Ha6NYa6Ra5LUa5UCa6Da6NNa6Ya5LEa5EPa6DDa6Na6RRa5LOa5OTTa6Ba6Va6Ha,MU TTUD",
   "DAGa,GAAHLAA TTUDDAAGa,MU-GAAHLAA TTUDDAAGa,RELAAa,PHAARKAAa,AHADa,PUNCTUATION MUCAADa:DOUBLE MU",
   "CAADa!CYRILLIC SMALL LETTER ROUNDED VEa;LONG-LEGGED DEa;NARROW Oa;WIDE ESa;TALL TEa<HREE-LEGGED ",
   "TEa<ALL HARD SIGNa@YATa;UNBLENDED UKh!GEORGIAN MTAVRULI CAPITAL LETTER ANaFBANaFGANaFDONaFENaFVI",
   "NaFZENaFTANaFINaFKANaFLASaFMANaFNARaFONaFPARaFZHARaFRAEaFSANaFTARaFUNaFPHARaFKHARaFGHANaFQARaFSH",
   "INaFCHINaGANaFJILaFCILaGHARaFXANaFJHANaFHAEaGEaGIEaFWEaFHARaGOEaFFIaFYNaFELIFIaFTURNED GANaFAINc",
   "GENaFHARD SIGNaFLABIAL SIGNa!SUNDANESE PUNCTUATION BINDU SURYAaAPANGLONGaBURNAMAaACAKRAaALEU SAT",
   "ANGAaAKA SATANGAaADA SATANGAaABA SATANGAi!VEDIC TONE KARSHANAa0SHARAa0PRENKHAa)SIGN NIHSHVASAa0Y",
   "AJURVEDIC MIDLINE SVARITAa)TONE YAJURVEDIC AGGRAVATED INDEPENDENT SVARITAa;INDEPENDENT SVARITAa;",
   "KATHAKA INDEPENDENT SVARITAa0CANDRA BELOWa0YAJURVEDIC KATHAKA INDEPENDENT SVARITA SCHROEDERa0DOU",
   "BLE SVARITAa0TRIPLE SVARITAa0KATHAKA ANUDATTAa0DOT BELOWa0TWO DOTS BELOWa1HREE DOTS BELOWa0RIGVE",
   "DIC KASHMIRI INDEPENDENT SVARITAa0ATHARVAVEDIC INDEPENDENT SVARITAa)SIGN VISARGA SVARITAa8UDATTA",
   "a0REVERSED VISARGA UDATTAa0VISARGA ANUDATTAa0REVERSED VISARGA ANUDATTAa0VISARGA UDATTA WITH TAIL",
   "a8ANUDATTA WITH TAILa0ANUSVARA ANTARGOMUKHAa9BAHIRGOMUKHAa9VAMAGOMUKHAaD WITH TAILa0TIRYAKa0HEXI",
   "FORM LONG ANUSVARAa0LONG ANUSVARAa0RTHANG LONG ANUSVARAa0ANUSVARA UBHAYATO MUKHAa1RDHAVISARGAa0R",
   "OTATED ARDHAVISARGAa)TONE CANDRA ABOVEa)SIGN JIHVAMULIYAa0UPADHMANIYAa0ATIKRAMAa)TONE RING ABOVE",
   "a0DOUBLE RING ABOVEa)SIGN DOUBLE ANUSVARA ANTARGOMUKHAf!LATIN LETTER SMALL CAPITAL AaAEa)SMALL L",
   "ETTER TURNED AEa)LETTER SMALL CAPITAL BARRED Ba@Ca@Da@ETHa@Ea)SMALL LETTER TURNED OPEN Ea?Ia)LET",
   "TER SMALL CAPITAL Ja@Ka@L WITH STROKEa@Ma@REVERSED Na@OaAPEN Oa)SMALL LETTER SIDEWAYS OaBPEN OaB",
   " WITH STROKEa8TURNED OEa)LETTER SMALL CAPITAL OUa)SMALL LETTER TOP HALF Oa8BOTTOM HALF Oa)LETTER",
   " SMALL CAPITAL Pa@REVERSED Ra@TURNED Ra@Ta@Ua)SMALL LETTER SIDEWAYS UaADIAERESIZED UaATURNED Ma)",
   "LETTER SMALL CAPITAL Va@Wa@Za@EZHa2VOICED LARYNGEAL SPIRANTa2AINa!GREEK LETTER SMALL CAPITAL GAM",
   "MAa@LAMDAa@PIa@RHOa@PSIa!CYRILLIC LETTER SMALL CAPITAL ELa!MODIFIER LETTER CAPITAL Aa>Ea=Ba>ARRE",
   "D Ba=Da=Ea=REVERSED Ea=Ga=Ha=Ia=Ja=Ka=La=Ma=Na=REVERSED Na=Oa>Ua=Pa=Ra=Ta=Ua=Wa5SMALL Aa;TURNED ",
   "Aa;ALPHAa;TURNED AEa;Ba;Da;Ea;SCHWAa;OPEN Ea;TURNED OPEN Ea;Ga;TURNED Ia;Ka;Ma;ENGa;Oa<PEN Oa;TO",
   "P HALF Oa;BOTTOM HALF Oa;Pa;Ta;Ua;SIDEWAYS Ua;TURNED Ma;Va;AINa;BETAa;GREEK GAMMAa;DELTAa;GREEK ",
   "PHIa;CHIa!LATIN SUBSCRIPT SMALL LETTER IaBRaBUaBVa!GREEK SUBSCRIPT SMALL LETTER BETAaBGAMMAaBRHO",
   "aBPHIaBCHIa!LATIN SMALL LETTER UEa8B WITH MIDDLE TILDEa8D WITH MIDDLE TILDEa8F WITH MIDDLE TILDE",
   "a8M WITH MIDDLE TILDEa8N WITH MIDDLE TILDEa8P WITH MIDDLE TILDEa8R WITH MIDDLE TILDEa?FISHHOOK A",
   "ND MIDDLE TILDEa8S WITH MIDDLE TILDEa8T WITH MIDDLE TILDEa8Z WITH MIDDLE TILDEa8TURNED Ga!MODIFI",
   "ER LETTER CYRILLIC ENa!LATIN SMALL LETTER INSULAR Ga8TH WITH STRIKETHROUGHa1CAPITAL LETTER I WIT",
   "H STROKEa1LETTER IOTA WITH STROKEa8P WITH STROKEa1CAPITAL LETTER U WITH STROKEa1LETTER UPSILON W",
   "ITH STROKEa8B WITH PALATAL HOOKa8D WITH PALATAL HOOKa8F WITH PALATAL HOOKa8G WITH PALATAL HOOKa8",
   "K WITH PALATAL HOOKa8L WITH PALATAL HOOKa8M WITH PALATAL HOOKa8N WITH PALATAL HOOKa8P WITH PALAT",
   "AL HOOKa8R WITH PALATAL HOOKa8S WITH PALATAL HOOKa8ESH WITH PALATAL HOOKa8V WITH PALATAL HOOKa8X",
   " WITH PALATAL HOOKa8Z WITH PALATAL HOOKa8A WITH RETROFLEX HOOKa9LPHA WITH RETROFLEX HOOKa8D WITH",
   " HOOK AND TAILa8E WITH RETROFLEX HOOKa8OPEN E WITH RETROFLEX HOOKa8REVERSED OPEN E WITH RETROFLE",
   "X HOOKa8SCHWA WITH RETROFLEX HOOKa8I WITH RETROFLEX HOOKa8OPEN O WITH RETROFLEX HOOKa8ESH WITH R",
   "ETROFLEX HOOKa8U WITH RETROFLEX HOOKa8EZH WITH RETROFLEX HOOKa!MODIFIER LETTER SMALL TURNED ALPH",
   "Aa;Ca< WITH CURLa;ETHa;REVERSED OPEN Ea;Fa;DOTLESS J WITH STROKEa;SCRIPT Ga;TURNED Ha;I WITH STR",
   "OKEa<OTAa;CAPITAL IaD WITH STROKEa;J WITH CROSSED-TAILa;L WITH RETROFLEX HOOKaBPALATAL HOOKa;CAP",
   "ITAL La;M WITH HOOKa;TURNED M WITH LONG LEGa;N WITH LEFT HOOKaBRETROFLEX HOOKa;CAPITAL Na;BARRED",
   " Oa;PHIa;S WITH HOOKa;ESHa;T WITH PALATAL HOOKa;U BARa<PSILONa;CAPITAL Ua;V WITH HOOKa;TURNED Va",
   ";Za< WITH RETROFLEX HOOKaBCURLa;EZHa;THETAa!COMBINING DOTTED GRAVE ACCENTa6ACUTE ACCENTa.SNAKE B",
   "ELOWa0USPENSION MARKa.MACRON-ACUTEa.GRAVE-MACRONa.MACRON-GRAVEa.ACUTE-MACRONa.GRAVE-ACUTE-GRAVEa",
   ".ACUTE-GRAVE-ACUTEa.LATIN SMALL LETTER R BELOWa.BREVE-MACRONa.MACRON-BREVEa.DOUBLE CIRCUMFLEX AB",
   "OVEa.OGONEK ABOVEa.ZIGZAG BELOWa.IS BELOWa.UR ABOVEa0S ABOVEa.LATIN SMALL LETTER FLATTENED OPEN ",
   "A ABOVEaBAEaCOaCVaBC CEDILLAaBINSULAR DaBETHaBGa5LETTER SMALL CAPITAL Ga5SMALL LETTER KaBLa5LETT",
   "ER SMALL CAPITAL LaJMa5SMALL LETTER Na5LETTER SMALL CAPITAL NaJRa5SMALL LETTER R ROTUNDAaBSaBLON",
   "G SaBZaBALPHAaBBaCETAaBSCHWAaBFaBL WITH DOUBLE MIDDLE TILDEaBO WITH LIGHT CENTRALIZATION STROKEa",
   "BPaBESHaBU WITH LIGHT CENTRALIZATION STROKEaBWaBA WITH DIAERESISaBO WITH DIAERESISaBU WITH DIAER",
   "ESISa.UP TACK ABOVEa.KAVYKA ABOVE RIGHTa<LEFTa.DOT ABOVE LEFTa.WIDE INVERTED BRIDGE BELOWa.DOT B",
   "ELOW LEFTa0ELETION MARKa0OUBLE INVERTED BREVE BELOWa.ALMOST EQUAL TO BELOWa.LEFT ARROWHEAD ABOVE",
   "a.RIGHT ARROWHEAD AND DOWN ARROWHEAD BELOWa!LATIN CAPITAL LETTER A WITH RING BELOWa)SMALL LETTER",
   " A WITH RING BELOWa)CAPITAL LETTER B WITH DOT ABOVEa)SMALL LETTER B WITH DOT ABOVEa)CAPITAL LETT",
   "ER B WITH DOT BELOWa)SMALL LETTER B WITH DOT BELOWa)CAPITAL LETTER B WITH LINE BELOWa)SMALL LETT",
   "ER B WITH LINE BELOWa)CAPITAL LETTER C WITH CEDILLA AND ACUTEa)SMALL LETTER C WITH CEDILLA AND A",
   "CUTEa)CAPITAL LETTER D WITH DOT ABOVEa)SMALL LETTER D WITH DOT ABOVEa)CAPITAL LETTER D WITH DOT ",
   "BELOWa)SMALL LETTER D WITH DOT BELOWa)CAPITAL LETTER D WITH LINE BELOWa)SMALL LETTER D WITH LINE",
   " BELOWa)CAPITAL LETTER D WITH CEDILLAa)SMALL LETTER D WITH CEDILLAa)CAPITAL LETTER D WITH CIRCUM",
   "FLEX BELOWa)SMALL LETTER D WITH CIRCUMFLEX BELOWa)CAPITAL LETTER E WITH MACRON AND GRAVEa)SMALL ",
   "LETTER E WITH MACRON AND GRAVEa)CAPITAL LETTER E WITH MACRON AND ACUTEa)SMALL LETTER E WITH MACR",
   "ON AND ACUTEa)CAPITAL LETTER E WITH CIRCUMFLEX BELOWa)SMALL LETTER E WITH CIRCUMFLEX BELOWa)CAPI",
   "TAL LETTER E WITH TILDE BELOWa)SMALL LETTER E WITH TILDE BELOWa)CAPITAL LETTER E WITH CEDILLA AN",
   "D BREVEa)SMALL LETTER E WITH CEDILLA AND BREVEa)CAPITAL LETTER F WITH DOT ABOVEa)SMALL LETTER F ",
   "WITH DOT ABOVEa)CAPITAL LETTER G WITH MACRONa)SMALL LETTER G WITH MACRONa)CAPITAL LETTER H WITH ",
   "DOT ABOVEa)SMALL LETTER H WITH DOT ABOVEa)CAPITAL LETTER H WITH DOT BELOWa)SMALL LETTER H WITH D",
   "OT BELOWa)CAPITAL LETTER H WITH DIAERESISa)SMALL LETTER H WITH DIAERESISa)CAPITAL LETTER H WITH ",
   "CEDILLAa)SMALL LETTER H WITH CEDILLAa)CAPITAL LETTER H WITH BREVE BELOWa)SMALL LETTER H WITH BRE",
   "VE BELOWa)CAPITAL LETTER I WITH TILDE BELOWa)SMALL LETTER I WITH TILDE BELOWa)CAPITAL LETTER I W",
   "ITH DIAERESIS AND ACUTEa)SMALL LETTER I WITH DIAERESIS AND ACUTEa)CAPITAL LETTER K WITH ACUTEa)S",
   "MALL LETTER K WITH ACUTEa)CAPITAL LETTER K WITH DOT BELOWa)SMALL LETTER K WITH DOT BELOWa)CAPITA",
   "L LETTER K WITH LINE BELOWa)SMALL LETTER K WITH LINE BELOWa)CAPITAL LETTER L WITH DOT BELOWa)SMA",
   "LL LETTER L WITH DOT BELOWa)CAPITAL LETTER L WITH DOT BELOW AND MACRONa)SMALL LETTER L WITH DOT ",
   "BELOW AND MACRONa)CAPITAL LETTER L WITH LINE BELOWa)SMALL LETTER L WITH LINE BELOWa)CAPITAL LETT",
   "ER L WITH CIRCUMFLEX BELOWa)SMALL LETTER L WITH CIRCUMFLEX BELOWa)CAPITAL LETTER M WITH ACUTEa)S",
   "MALL LETTER M WITH ACUTEa)CAPITAL LETTER M WITH DOT ABOVEa)SMALL LETTER M WITH DOT ABOVEa)CAPITA",
   "L LETTER M WITH DOT BELOWa)SMALL LETTER M WITH DOT BELOWa)CAPITAL LETTER N WITH DOT ABOVEa)SMALL",
   " LETTER N WITH DOT ABOVEa)CAPITAL LETTER N WITH DOT BELOWa)SMALL LETTER N WITH DOT BELOWa)CAPITA",
   "L LETTER N WITH LINE BELOWa)SMALL LETTER N WITH LINE BELOWa)CAPITAL LETTER N WITH CIRCUMFLEX BEL",
   "OWa)SMALL LETTER N WITH CIRCUMFLEX BELOWa)CAPITAL LETTER O WITH TILDE AND ACUTEa)SMALL LETTER O ",
   "WITH TILDE AND ACUTEa)CAPITAL LETTER O WITH TILDE AND DIAERESISa)SMALL LETTER O WITH TILDE AND D",
   "IAERESISa)CAPITAL LETTER O WITH MACRON AND GRAVEa)SMALL LETTER O WITH MACRON AND GRAVEa)CAPITAL ",
   "LETTER O WITH MACRON AND ACUTEa)SMALL LETTER O WITH MACRON AND ACUTEa)CAPITAL LETTER P WITH ACUT",
   "Ea)SMALL LETTER P WITH ACUTEa)CAPITAL LETTER P WITH DOT ABOVEa)SMALL LETTER P WITH DOT ABOVEa)CA",
   "PITAL LETTER R WITH DOT ABOVEa)SMALL LETTER R WITH DOT ABOVEa)CAPITAL LETTER R WITH DOT BELOWa)S",
   "MALL LETTER R WITH DOT BELOWa)CAPITAL LETTER R WITH DOT BELOW AND MACRONa)SMALL LETTER R WITH DO",
   "T BELOW AND MACRONa)CAPITAL LETTER R WITH LINE BELOWa)SMALL LETTER R WITH LINE BELOWa)CAPITAL LE",
   "TTER S WITH DOT ABOVEa)SMALL LETTER S WITH DOT ABOVEa)CAPITAL LETTER S WITH DOT BELOWa)SMALL LET",
   "TER S WITH DOT BELOWa)CAPITAL LETTER S WITH ACUTE AND DOT ABOVEa)SMALL LETTER S WITH ACUTE AND D",
   "OT ABOVEa)CAPITAL LETTER S WITH CARON AND DOT ABOVEa)SMALL LETTER S WITH CARON AND DOT ABOVEa)CA",
   "PITAL LETTER S WITH DOT BELOW AND DOT ABOVEa)SMALL LETTER S WITH DOT BELOW AND DOT ABOVEa)CAPITA",
   "L LETTER T WITH DOT ABOVEa)SMALL LETTER T WITH DOT ABOVEa)CAPITAL LETTER T WITH DOT BELOWa)SMALL",
   " LETTER T WITH DOT BELOWa)CAPITAL LETTER T WITH LINE BELOWa)SMALL LETTER T WITH LINE BELOWa)CAPI",
   "TAL LETTER T WITH CIRCUMFLEX BELOWa)SMALL LETTER T WITH CIRCUMFLEX BELOWa)CAPITAL LETTER U WITH ",
   "DIAERESIS BELOWa)SMALL LETTER U WITH DIAERESIS BELOWa)CAPITAL LETTER U WITH TILDE BELOWa)SMALL L",
   "ETTER U WITH TILDE BELOWa)CAPITAL LETTER U WITH CIRCUMFLEX BELOWa)SMALL LETTER U WITH CIRCUMFLEX",
   " BELOWa)CAPITAL LETTER U WITH TILDE AND ACUTEa)SMALL LETTER U WITH TILDE AND ACUTEa)CAPITAL LETT",
   "ER U WITH MACRON AND DIAERESISa)SMALL LETTER U WITH MACRON AND DIAERESISa)CAPITAL LETTER V WITH ",
   "TILDEa)SMALL LETTER V WITH TILDEa)CAPITAL LETTER V WITH DOT BELOWa)SMALL LETTER V WITH DOT BELOW",
   "a)CAPITAL LETTER W WITH GRAVEa)SMALL LETTER W WITH GRAVEa)CAPITAL LETTER W WITH ACUTEa)SMALL LET",
   "TER W WITH ACUTEa)CAPITAL LETTER W WITH DIAERESISa)SMALL LETTER W WITH DIAERESISa)CAPITAL LETTER",
   " W WITH DOT ABOVEa)SMALL LETTER W WITH DOT ABOVEa)CAPITAL LETTER W WITH DOT BELOWa)SMALL LETTER ",
   "W WITH DOT BELOWa)CAPITAL LETTER X WITH DOT ABOVEa)SMALL LETTER X WITH DOT ABOVEa)CAPITAL LETTER",
   " X WITH DIAERESISa)SMALL LETTER X WITH DIAERESISa)CAPITAL LETTER Y WITH DOT ABOVEa)SMALL LETTER ",
   "Y WITH DOT ABOVEa)CAPITAL LETTER Z WITH CIRCUMFLEXa)SMALL LETTER Z WITH CIRCUMFLEXa)CAPITAL LETT",
   "ER Z WITH DOT BELOWa)SMALL LETTER Z WITH DOT BELOWa)CAPITAL LETTER Z WITH LINE BELOWa)SMALL LETT",
   "ER Z WITH LINE BELOWa8H WITH LINE BELOWa8T WITH DIAERESISa8W WITH RING ABOVEa8Y WITH RING ABOVEa",
   "8A WITH RIGHT HALF RINGa8LONG S WITH DOT ABOVEaEIAGONAL STROKEaDHIGH STROKEa)CAPITAL LETTER SHAR",
   "P Sa)SMALL LETTER DELTAa)CAPITAL LETTER A WITH DOT BELOWa)SMALL LETTER A WITH DOT BELOWa)CAPITAL",
   " LETTER A WITH HOOK ABOVEa)SMALL LETTER A WITH HOOK ABOVEa)CAPITAL LETTER A WITH CIRCUMFLEX AND ",
   "ACUTEa)SMALL LETTER A WITH CIRCUMFLEX AND ACUTEa)CAPITAL LETTER A WITH CIRCUMFLEX AND GRAVEa)SMA",
   "LL LETTER A WITH CIRCUMFLEX AND GRAVEa)CAPITAL LETTER A WITH CIRCUMFLEX AND HOOK ABOVEa)SMALL LE",
   "TTER A WITH CIRCUMFLEX AND HOOK ABOVEa)CAPITAL LETTER A WITH CIRCUMFLEX AND TILDEa)SMALL LETTER ",
   "A WITH CIRCUMFLEX AND TILDEa)CAPITAL LETTER A WITH CIRCUMFLEX AND DOT BELOWa)SMALL LETTER A WITH",
   " CIRCUMFLEX AND DOT BELOWa)CAPITAL LETTER A WITH BREVE AND ACUTEa)SMALL LETTER A WITH BREVE AND ",
   "ACUTEa)CAPITAL LETTER A WITH BREVE AND GRAVEa)SMALL LETTER A WITH BREVE AND GRAVEa)CAPITAL LETTE",
   "R A WITH BREVE AND HOOK ABOVEa)SMALL LETTER A WITH BREVE AND HOOK ABOVEa)CAPITAL LETTER A WITH B",
   "REVE AND TILDEa)SMALL LETTER A WITH BREVE AND TILDEa)CAPITAL LETTER A WITH BREVE AND DOT BELOWa)",
   "SMALL LETTER A WITH BREVE AND DOT BELOWa)CAPITAL LETTER E WITH DOT BELOWa)SMALL LETTER E WITH DO",
   "T BELOWa)CAPITAL LETTER E WITH HOOK ABOVEa)SMALL LETTER E WITH HOOK ABOVEa)CAPITAL LETTER E WITH",
   " TILDEa)SMALL LETTER E WITH TILDEa)CAPITAL LETTER E WITH CIRCUMFLEX AND ACUTEa)SMALL LETTER E WI",
   "TH CIRCUMFLEX AND ACUTEa)CAPITAL LETTER E WITH CIRCUMFLEX AND GRAVEa)SMALL LETTER E WITH CIRCUMF",
   "LEX AND GRAVEa)CAPITAL LETTER E WITH CIRCUMFLEX AND HOOK ABOVEa)SMALL LETTER E WITH CIRCUMFLEX A",
   "ND HOOK ABOVEa)CAPITAL LETTER E WITH CIRCUMFLEX AND TILDEa)SMALL LETTER E WITH CIRCUMFLEX AND TI",
   "LDEa)CAPITAL LETTER E WITH CIRCUMFLEX AND DOT BELOWa)SMALL LETTER E WITH CIRCUMFLEX AND DOT BELO",
   "Wa)CAPITAL LETTER I WITH HOOK ABOVEa)SMALL LETTER I WITH HOOK ABOVEa)CAPITAL LETTER I WITH DOT B",
   "ELOWa)SMALL LETTER I WITH DOT BELOWa)CAPITAL LETTER O WITH DOT BELOWa)SMALL LETTER O WITH DOT BE",
   "LOWa)CAPITAL LETTER O WITH HOOK ABOVEa)SMALL LETTER O WITH HOOK ABOVEa)CAPITAL LETTER O WITH CIR",
   "CUMFLEX AND ACUTEa)SMALL LETTER O WITH CIRCUMFLEX AND ACUTEa)CAPITAL LETTER O WITH CIRCUMFLEX AN",
   "D GRAVEa)SMALL LETTER O WITH CIRCUMFLEX AND GRAVEa)CAPITAL LETTER O WITH CIRCUMFLEX AND HOOK ABO",
   "VEa)SMALL LETTER O WITH CIRCUMFLEX AND HOOK ABOVEa)CAPITAL LETTER O WITH CIRCUMFLEX AND TILDEa)S",
   "MALL LETTER O WITH CIRCUMFLEX AND TILDEa)CAPITAL LETTER O WITH CIRCUMFLEX AND DOT BELOWa)SMALL L",
   "ETTER O WITH CIRCUMFLEX AND DOT BELOWa)CAPITAL LETTER O WITH HORN AND ACUTEa)SMALL LETTER O WITH",
   " HORN AND ACUTEa)CAPITAL LETTER O WITH HORN AND GRAVEa)SMALL LETTER O WITH HORN AND GRAVEa)CAPIT",
   "AL LETTER O WITH HORN AND HOOK ABOVEa)SMALL LETTER O WITH HORN AND HOOK ABOVEa)CAPITAL LETTER O ",
   "WITH HORN AND TILDEa)SMALL LETTER O WITH HORN AND TILDEa)CAPITAL LETTER O WITH HORN AND DOT BELO",
   "Wa)SMALL LETTER O WITH HORN AND DOT BELOWa)CAPITAL LETTER U WITH DOT BELOWa)SMALL LETTER U WITH ",
   "DOT BELOWa)CAPITAL LETTER U WITH HOOK ABOVEa)SMALL LETTER U WITH HOOK ABOVEa)CAPITAL LETTER U WI",
   "TH HORN AND ACUTEa)SMALL LETTER U WITH HORN AND ACUTEa)CAPITAL LETTER U WITH HORN AND GRAVEa)SMA",
   "LL LETTER U WITH HORN AND GRAVEa)CAPITAL LETTER U WITH HORN AND HOOK ABOVEa)SMALL LETTER U WITH ",
   "HORN AND HOOK ABOVEa)CAPITAL LETTER U WITH HORN AND TILDEa)SMALL LETTER U WITH HORN AND TILDEa)C",
   "APITAL LETTER U WITH HORN AND DOT BELOWa)SMALL LETTER U WITH HORN AND DOT BELOWa)CAPITAL LETTER ",
   "Y WITH GRAVEa)SMALL LETTER Y WITH GRAVEa)CAPITAL LETTER Y WITH DOT BELOWa)SMALL LETTER Y WITH DO",
   "T BELOWa)CAPITAL LETTER Y WITH HOOK ABOVEa)SMALL LETTER Y WITH HOOK ABOVEa)CAPITAL LETTER Y WITH",
   " TILDEa)SMALL LETTER Y WITH TILDEa)CAPITAL LETTER MIDDLE-WELSH LLa)SMALL LETTER MIDDLE-WELSH LLa",
   ")CAPITAL LETTER MIDDLE-WELSH Va)SMALL LETTER MIDDLE-WELSH Va)CAPITAL LETTER Y WITH LOOPa)SMALL L",
   "ETTER Y WITH LOOPa!GREEK SMALL LETTER ALPHA WITH PSILIaCDASIAaCPSILI AND VARIAaCDASIA AND VARIAa",
   "CPSILI AND OXIAaCDASIA AND OXIAaCPSILI AND PERISPOMENIaCDASIA AND PERISPOMENIa)CAPITAL LETTER AL",
   "PHA WITH PSILIaEDASIAaEPSILI AND VARIAaEDASIA AND VARIAaEPSILI AND OXIAaEDASIA AND OXIAaEPSILI A",
   "ND PERISPOMENIaEDASIA AND PERISPOMENIa)SMALL LETTER EPSILON WITH PSILIaEDASIAaEPSILI AND VARIAaE",
   "DASIA AND VARIAaEPSILI AND OXIAaEDASIA AND OXIAc)CAPITAL LETTER EPSILON WITH PSILIaGDASIAaGPSILI",
   " AND VARIAaGDASIA AND VARIAaGPSILI AND OXIAaGDASIA AND OXIAc)SMALL LETTER ETA WITH PSILIaADASIAa",
   "APSILI AND VARIAaADASIA AND VARIAaAPSILI AND OXIAaADASIA AND OXIAaAPSILI AND PERISPOMENIaADASIA ",
   "AND PERISPOMENIa)CAPITAL LETTER ETA WITH PSILIaCDASIAaCPSILI AND VARIAaCDASIA AND VARIAaCPSILI A",
   "ND OXIAaCDASIA AND OXIAaCPSILI AND PERISPOMENIaCDASIA AND PERISPOMENIa)SMALL LETTER IOTA WITH PS",
   "ILIaBDASIAaBPSILI AND VARIAaBDASIA AND VARIAaBPSILI AND OXIAaBDASIA AND OXIAaBPSILI AND PERISPOM",
   "ENIaBDASIA AND PERISPOMENIa)CAPITAL LETTER IOTA WITH PSILIaDDASIAaDPSILI AND VARIAaDDASIA AND VA",
   "RIAaDPSILI AND OXIAaDDASIA AND OXIAaDPSILI AND PERISPOMENIaDDASIA AND PERISPOMENIa)SMALL LETTER ",
   "OMICRON WITH PSILIaEDASIAaEPSILI AND VARIAaEDASIA AND VARIAaEPSILI AND OXIAaEDASIA AND OXIAc)CAP",
   "ITAL LETTER OMICRON WITH PSILIaGDASIAaGPSILI AND VARIAaGDASIA AND VARIAaGPSILI AND OXIAaGDASIA A",
   "ND OXIAc)SMALL LETTER UPSILON WITH PSILIaEDASIAaEPSILI AND VARIAaEDASIA AND VARIAaEPSILI AND OXI",
   "AaEDASIA AND OXIAaEPSILI AND PERISPOMENIaEDASIA AND PERISPOMENIb)CAPITAL LETTER UPSILON WITH DAS",
   "IAbL AND VARIAbQOXIAbQPERISPOMENIa)SMALL LETTER OMEGA WITH PSILIaCDASIAaCPSILI AND VARIAaCDASIA ",
   "AND VARIAaCPSILI AND OXIAaCDASIA AND OXIAaCPSILI AND PERISPOMENIaCDASIA AND PERISPOMENIa)CAPITAL",
   " LETTER OMEGA WITH PSILIaEDASIAaEPSILI AND VARIAaEDASIA AND VARIAaEPSILI AND OXIAaEDASIA AND OXI",
   "AaEPSILI AND PERISPOMENIaEDASIA AND PERISPOMENIa)SMALL LETTER ALPHA WITH VARIAaCOXIAa8EPSILON WI",
   "TH VARIAaEOXIAa9TA WITH VARIAaAOXIAa8IOTA WITH VARIAaBOXIAa8OMICRON WITH VARIAaEOXIAa8UPSILON WI",
   "TH VARIAaEOXIAa8OMEGA WITH VARIAaCOXIAc8ALPHA WITH PSILI AND YPOGEGRAMMENIaCDASIA AND YPOGEGRAMM",
   "ENIaCPSILI AND VARIA AND YPOGEGRAMMENIaCDASIA AND VARIA AND YPOGEGRAMMENIaCPSILI AND OXIA AND YP",
   "OGEGRAMMENIaCDASIA AND OXIA AND YPOGEGRAMMENIaCPSILI AND PERISPOMENI AND YPOGEGRAMMENIaCDASIA AN",
   "D PERISPOMENI AND YPOGEGRAMMENIa)CAPITAL LETTER ALPHA WITH PSILI AND PROSGEGRAMMENIaEDASIA AND P",
   "ROSGEGRAMMENIaEPSILI AND VARIA AND PROSGEGRAMMENIaEDASIA AND VARIA AND PROSGEGRAMMENIaEPSILI AND",
   " OXIA AND PROSGEGRAMMENIaEDASIA AND OXIA AND PROSGEGRAMMENIaEPSILI AND PERISPOMENI AND PROSGEGRA",
   "MMENIaEDASIA AND PERISPOMENI AND PROSGEGRAMMENIa)SMALL LETTER ETA WITH PSILI AND YPOGEGRAMMENIaA",
   "DASIA AND YPOGEGRAMMENIaAPSILI AND VARIA AND YPOGEGRAMMENIaADASIA AND VARIA AND YPOGEGRAMMENIaAP",
   "SILI AND OXIA AND YPOGEGRAMMENIaADASIA AND OXIA AND YPOGEGRAMMENIaAPSILI AND PERISPOMENI AND YPO",
   "GEGRAMMENIaADASIA AND PERISPOMENI AND YPOGEGRAMMENIa)CAPITAL LETTER ETA WITH PSILI AND PROSGEGRA",
   "MMENIaCDASIA AND PROSGEGRAMMENIaCPSILI AND VARIA AND PROSGEGRAMMENIaCDASIA AND VARIA AND PROSGEG",
   "RAMMENIaCPSILI AND OXIA AND PROSGEGRAMMENIaCDASIA AND OXIA AND PROSGEGRAMMENIaCPSILI AND PERISPO",
   "MENI AND PROSGEGRAMMENIaCDASIA AND PERISPOMENI AND PROSGEGRAMMENIa)SMALL LETTER OMEGA WITH PSILI",
   " AND YPOGEGRAMMENIaCDASIA AND YPOGEGRAMMENIaCPSILI AND VARIA AND YPOGEGRAMMENIaCDASIA AND VARIA ",
   "AND YPOGEGRAMMENIaCPSILI AND OXIA AND YPOGEGRAMMENIaCDASIA AND OXIA AND YPOGEGRAMMENIaCPSILI AND",
   " PERISPOMENI AND YPOGEGRAMMENIaCDASIA AND PERISPOMENI AND YPOGEGRAMMENIa)CAPITAL LETTER OMEGA WI",
   "TH PSILI AND PROSGEGRAMMENIaEDASIA AND PROSGEGRAMMENIaEPSILI AND VARIA AND PROSGEGRAMMENIaEDASIA",
   " AND VARIA AND PROSGEGRAMMENIaEPSILI AND OXIA AND PROSGEGRAMMENIaEDASIA AND OXIA AND PROSGEGRAMM",
   "ENIaEPSILI AND PERISPOMENI AND PROSGEGRAMMENIaEDASIA AND PERISPOMENI AND PROSGEGRAMMENIa)SMALL L",
   "ETTER ALPHA WITH VRACHYaCMACRONaCVARIA AND YPOGEGRAMMENIaCYPOGEGRAMMENIaCOXIA AND YPOGEGRAMMENIb",
   "CPERISPOMENIaN AND YPOGEGRAMMENIa)CAPITAL LETTER ALPHA WITH VRACHYaEMACRONaEVARIAaEOXIAaEPROSGEG",
   "RAMMENIa)KORONISa)PROSGEGRAMMENIa*SILIa*ERISPOMENIa)DIALYTIKA AND PERISPOMENIa)SMALL LETTER ETA ",
   "WITH VARIA AND YPOGEGRAMMENIaAYPOGEGRAMMENIaAOXIA AND YPOGEGRAMMENIbAPERISPOMENIaL AND YPOGEGRAM",
   "MENIa)CAPITAL LETTER EPSILON WITH VARIAaGOXIAa;TA WITH VARIAaCOXIAaCPROSGEGRAMMENIa)PSILI AND VA",
   "RIAa5OXIAa5PERISPOMENIa)SMALL LETTER IOTA WITH VRACHYaBMACRONaBDIALYTIKA AND VARIAaPOXIAcBPERISP",
   "OMENIaBDIALYTIKA AND PERISPOMENIa)CAPITAL LETTER IOTA WITH VRACHYaDMACRONaDVARIAaDOXIAb)DASIA AN",
   "D VARIAa5OXIAa5PERISPOMENIa)SMALL LETTER UPSILON WITH VRACHYaEMACRONaEDIALYTIKA AND VARIAaSOXIAa",
   "8RHO WITH PSILIaADASIAa8UPSILON WITH PERISPOMENIaEDIALYTIKA AND PERISPOMENIa)CAPITAL LETTER UPSI",
   "LON WITH VRACHYaGMACRONaGVARIAaGOXIAa:RHO WITH DASIAa)DIALYTIKA AND VARIAa9OXIAa)VARIAc)SMALL LE",
   "TTER OMEGA WITH VARIA AND YPOGEGRAMMENIaCYPOGEGRAMMENIaCOXIA AND YPOGEGRAMMENIbCPERISPOMENIaN AN",
   "D YPOGEGRAMMENIa)CAPITAL LETTER OMICRON WITH VARIAaGOXIAa<EGA WITH VARIAaEOXIAaEPROSGEGRAMMENIa)",
   "OXIAa)DASIAb!EN QUADa#M QUADa#N SPACEa#M SPACEa!THREE-PER-EM SPACEa!FOUR-PER-EM SPACEa!SIX-PER-E",
   "M SPACEa!FIGURE SPACEa!PUNCTUATION SPACEa!THIN SPACEa!HAIR SPACEa!ZERO WIDTH SPACEa0NON-JOINERa0",
   "JOINERa!LEFT-TO-RIGHT MARKa!RIGHT-TO-LEFT MARKa!HYPHENa!NON-BREAKING HYPHENa!FIGURE DASHa!EN DAS",
   "Ha#M DASHa!HORIZONTAL BARa!DOUBLE VERTICAL LINEa*LOW LINEa!LEFT SINGLE QUOTATION MARKa!RIGHT SIN",
   "GLE QUOTATION MARKa!SINGLE LOW-9 QUOTATION MARKa*HIGH-REVERSED-9 QUOTATION MARKa!LEFT DOUBLE QUO",
   "TATION MARKa!RIGHT DOUBLE QUOTATION MARKa!DOUBLE LOW-9 QUOTATION MARKa*HIGH-REVERSED-9 QUOTATION",
   " MARKa#AGGERa#OUBLE DAGGERa!BULLETa!TRIANGULAR BULLETa!ONE DOT LEADERa!TWO DOT LEADERa!HORIZONTA",
   "L ELLIPSISa#YPHENATION POINTa!LINE SEPARATORa!PARAGRAPH SEPARATORa!LEFT-TO-RIGHT EMBEDDINGa!RIGH",
   "T-TO-LEFT EMBEDDINGa!POP DIRECTIONAL FORMATTINGa!LEFT-TO-RIGHT OVERRIDEa!RIGHT-TO-LEFT OVERRIDEa",
   "!NARROW NO-BREAK SPACEa!PER MILLE SIGNa&TEN THOUSAND SIGNa#RIMEa!DOUBLE PRIMEa!TRIPLE PRIMEa!REV",
   "ERSED PRIMEa,DOUBLE PRIMEa,TRIPLE PRIMEa!CARETa!SINGLE LEFT-POINTING ANGLE QUOTATION MARKa*RIGHT",
   "-POINTING ANGLE QUOTATION MARKa!REFERENCE MARKa!DOUBLE EXCLAMATION MARKa!INTERROBANGa!OVERLINEa!",
   "UNDERTIEa!CHARACTER TIEa#ARET INSERTION POINTa!ASTERISMa!HYPHEN BULLETa!FRACTION SLASHa!LEFT SQU",
   "ARE BRACKET WITH QUILLa!RIGHT SQUARE BRACKET WITH QUILLa!DOUBLE QUESTION MARKa!QUESTION EXCLAMAT",
   "ION MARKa!EXCLAMATION QUESTION MARKa!TIRONIAN SIGN ETa!REVERSED PILCROW SIGNa!BLACK LEFTWARDS BU",
   "LLETa)RIGHTWARDS BULLETa!LOW ASTERISKa!REVERSED SEMICOLONa!CLOSE UPa!TWO ASTERISKS ALIGNED VERTI",
   "CALLYa!COMMERCIAL MINUS SIGNa!SWUNG DASHa!INVERTED UNDERTIEa!FLOWER PUNCTUATION MARKa!THREE DOT ",
   "PUNCTUATIONa!QUADRUPLE PRIMEa!FOUR DOT PUNCTUATIONa#IVE DOT PUNCTUATIONa!TWO DOT PUNCTUATIONa!FO",
   "UR DOT MARKa!DOTTED CROSSa!TRICOLONa!VERTICAL FOUR DOTSa!MEDIUM MATHEMATICAL SPACEa!WORD JOINERa",
   "!FUNCTION APPLICATIONa!INVISIBLE TIMESa.SEPARATORa.PLUSb!LEFT-TO-RIGHT ISOLATEa!RIGHT-TO-LEFT IS",
   "OLATEa!FIRST STRONG ISOLATEa!POP DIRECTIONAL ISOLATEa!INHIBIT SYMMETRIC SWAPPINGa!ACTIVATE SYMME",
   "TRIC SWAPPINGa!INHIBIT ARABIC FORM SHAPINGa!ACTIVATE ARABIC FORM SHAPINGa!NATIONAL DIGIT SHAPESa",
   "#OMINAL DIGIT SHAPESa!SUPERSCRIPT ZEROa1LATIN SMALL LETTER Ic1FOURa2IVEa1SIXa2EVENa1EIGHTa1NINEa",
   "1PLUS SIGNa1MINUSa1EQUALS SIGNa1LEFT PARENTHESISa1RIGHT PARENTHESISa1LATIN SMALL LETTER Na$BSCRI",
   "PT ZEROa.ONEa.TWOa0HREEa.FOURa0IVEa.SIXa0EVENa.EIGHTa.NINEa.PLUS SIGNa.MINUSa.EQUALS SIGNa.LEFT ",
   "PARENTHESISa.RIGHT PARENTHESISb!LATIN SUBSCRIPT SMALL LETTER AaBEaBOaBXaBSCHWAaBHaBKaBLaBMaBNaBP",
   "aBSaBTd!EURO-CURRENCY SIGNa!COLON SIGNa#RUZEIRO SIGNa!FRENCH FRANC SIGNa!LIRA SIGNa!MILL SIGNa!N",
   "AIRA SIGNa!PESETA SIGNa!RUPEE SIGNa!WON SIGNa!NEW SHEQEL SIGNa!DONG SIGNa!EURO SIGNa!KIP SIGNa!T",
   "UGRIK SIGNa!DRACHMA SIGNa!GERMAN PENNY SIGNa!PESO SIGNa!GUARANI SIGNa!AUSTRAL SIGNa!HRYVNIA SIGN",
   "a!CEDI SIGNa!LIVRE TOURNOIS SIGNa!SPESMILO SIGNa!TENGE SIGNa!INDIAN RUPEE SIGNa!TURKISH LIRA SIG",
   "Na!NORDIC MARK SIGNa!MANAT SIGNa!RUBLE SIGNa!LARI SIGNa!BITCOIN SIGNa!SOM SIGNp!COMBINING LEFT H",
   "ARPOON ABOVEa.RIGHT HARPOON ABOVEa.LONG VERTICAL LINE OVERLAYa.SHORT VERTICAL LINE OVERLAYa.ANTI",
   "CLOCKWISE ARROW ABOVEa.CLOCKWISE ARROW ABOVEa.LEFT ARROW ABOVEa.RIGHT ARROW ABOVEa1NG OVERLAYa.C",
   "LOCKWISE RING OVERLAYa.ANTICLOCKWISE RING OVERLAYa.THREE DOTS ABOVEa.FOUR DOTS ABOVEa.ENCLOSING ",
   "CIRCLEa9SQUAREa9DIAMONDa9CIRCLE BACKSLASHa.LEFT RIGHT ARROW ABOVEa.ENCLOSING SCREENa9KEYCAPa9UPW",
   "ARD POINTING TRIANGLEa.REVERSE SOLIDUS OVERLAYa.DOUBLE VERTICAL STROKE OVERLAYa.ANNUITY SYMBOLa.",
   "TRIPLE UNDERDOTa.WIDE BRIDGE ABOVEa.LEFTWARDS ARROW OVERLAYa0ONG DOUBLE SOLIDUS OVERLAYa.RIGHTWA",
   "RDS HARPOON WITH BARB DOWNWARDSa.LEFTWARDS HARPOON WITH BARB DOWNWARDSa3 ARROW BELOWa.RIGHT ARRO",
   "W BELOWa.ASTERISK ABOVEp!ACCOUNT OFa#DDRESSED TO THE SUBJECTa!DOUBLE-STRUCK CAPITAL Ca#EGREE CEL",
   "SIUSa!CENTRE LINE SYMBOLa#ARE OFa$DA UNAa!EULER CONSTANTa!SCRUPLEa!DEGREE FAHRENHEITa!SCRIPT SMA",
   "LL Ga*CAPITAL Ha!BLACK-LETTER CAPITAL Ha!DOUBLE-STRUCK CAPITAL Ha!PLANCK CONSTANTa4 OVER TWO PIa",
   "!SCRIPT CAPITAL Ia!BLACK-LETTER CAPITAL Ia!SCRIPT CAPITAL La*SMALL La!L B BAR SYMBOLa!DOUBLE-STR",
   "UCK CAPITAL Na!NUMERO SIGNa!SOUND RECORDING COPYRIGHTa#CRIPT CAPITAL P!0!!WEIERSTRASS ELLIPTIC F",
   "UNCTIONa!DOUBLE-STRUCK CAPITAL Pa;Qa!SCRIPT CAPITAL Ra!BLACK-LETTER CAPITAL Ra!DOUBLE-STRUCK CAP",
   "ITAL Ra!PRESCRIPTION TAKEa!RESPONSEa!SERVICE MARKa!TELEPHONE SIGNa#RADE MARK SIGNa!VERSICLEa!DOU",
   "BLE-STRUCK CAPITAL Za!OUNCE SIGNa#HM SIGNa!INVERTED OHM SIGNa!BLACK-LETTER CAPITAL Za!TURNED GRE",
   "EK SMALL LETTER IOTAa!KELVIN SIGNa!ANGSTROM SIGNa!SCRIPT CAPITAL Ba!BLACK-LETTER CAPITAL Ca!ESTI",
   "MATED SYMBOLa!SCRIPT SMALL Ea*CAPITAL Ea4Fa!TURNED CAPITAL Fa!SCRIPT CAPITAL Ma*SMALL Oa!ALEF SY",
   "MBOLa!BET SYMBOLa!GIMEL SYMBOLa!DALET SYMBOLa!INFORMATION SOURCEa!ROTATED CAPITAL Qa!FACSIMILE S",
   "IGNa!DOUBLE-STRUCK SMALL PIa9GAMMAa3CAPITAL GAMMAa;PIa3N-ARY SUMMATIONa!TURNED SANS-SERIF CAPITA",
   "L Ga?La!REVERSED SANS-SERIF CAPITAL La!TURNED SANS-SERIF CAPITAL Ya!DOUBLE-STRUCK ITALIC CAPITAL",
   " Da:SMALL Da@Ea@Ia@Ja!PROPERTY LINEa!TURNED AMPERSANDa!PER SIGNa!AKTIESELSKABa!TURNED SMALL Fa!S",
   "YMBOL FOR SAMARITAN SOURCEa!VULGAR FRACTION ONE SEVENTHa9NINTHa9TENTHa:HIRDa5TWO THIRDSa5ONE FIF",
   "THa5TWO FIFTHSa6HREE FIFTHSa5FOUR FIFTHSa5ONE SIXTHa5FIVE SIXTHSa5ONE EIGHTHa5THREE EIGHTHSa5FIV",
   "E EIGHTHSa5SEVEN EIGHTHSa!FRACTION NUMERATOR ONEa!ROMAN NUMERAL ONEa3TWOa4HREEa3FOURa4IVEa3SIXa4",
   "EVENa3EIGHTa3NINEa3TENa3ELEVENa3TWELVEa3FIFTYa3ONE HUNDREDa3FIVE HUNDREDa3ONE THOUSANDa!SMALL RO",
   "MAN NUMERAL ONEa9TWOa:HREEa9FOURa:IVEa9SIXa:EVENa9EIGHTa9NINEa9TENa9ELEVENa9TWELVEa9FIFTYa9ONE H",
   "UNDREDa9FIVE HUNDREDa9ONE THOUSANDa!ROMAN NUMERAL ONE THOUSAND C Da3FIVE THOUSANDa3TEN THOUSANDa",
   "3REVERSED ONE HUNDREDa!LATIN SMALL LETTER REVERSED Ca!ROMAN NUMERAL SIX LATE FORMa3FIFTY EARLY F",
   "ORMa9THOUSANDa3ONE HUNDRED THOUSANDa!VULGAR FRACTION ZERO THIRDSa!TURNED DIGIT TWOa3HREEe!LEFTWA",
   "RDS ARROWa!UPWARDS ARROWa!RIGHTWARDS ARROWa!DOWNWARDS ARROWa!LEFT RIGHT ARROWa!UP DOWN ARROWa!NO",
   "RTH WEST ARROWa)EAST ARROWa!SOUTH EAST ARROWa)WEST ARROWa!LEFTWARDS ARROW WITH STROKEa!RIGHTWARD",
   "S ARROW WITH STROKEa!LEFTWARDS WAVE ARROWa!RIGHTWARDS WAVE ARROWa!LEFTWARDS TWO HEADED ARROWa!UP",
   "WARDS TWO HEADED ARROWa!RIGHTWARDS TWO HEADED ARROWa!DOWNWARDS TWO HEADED ARROWa!LEFTWARDS ARROW",
   " WITH TAILa!RIGHTWARDS ARROW WITH TAILa!LEFTWARDS ARROW FROM BARa!UPWARDS ARROW FROM BARa!RIGHTW",
   "ARDS ARROW FROM BARa!DOWNWARDS ARROW FROM BARa!UP DOWN ARROW WITH BASEa!LEFTWARDS ARROW WITH HOO",
   "Ka!RIGHTWARDS ARROW WITH HOOKa!LEFTWARDS ARROW WITH LOOPa!RIGHTWARDS ARROW WITH LOOPa!LEFT RIGHT",
   " WAVE ARROWa0ARROW WITH STROKEa!DOWNWARDS ZIGZAG ARROWa!UPWARDS ARROW WITH TIP LEFTWARDSa<RIGHTW",
   "ARDSa!DOWNWARDS ARROW WITH TIP LEFTWARDSa>RIGHTWARDSa!RIGHTWARDS ARROW WITH CORNER DOWNWARDSa!DO",
   "WNWARDS ARROW WITH CORNER LEFTWARDSa!ANTICLOCKWISE TOP SEMICIRCLE ARROWa!CLOCKWISE TOP SEMICIRCL",
   "E ARROWa!NORTH WEST ARROW TO LONG BARa!LEFTWARDS ARROW TO BAR OVER RIGHTWARDS ARROW TO BARa!ANTI",
   "CLOCKWISE OPEN CIRCLE ARROWa!CLOCKWISE OPEN CIRCLE ARROWa!LEFTWARDS HARPOON WITH BARB UPWARDSaAD",
   "OWNWARDSa!UPWARDS HARPOON WITH BARB RIGHTWARDSa?LEFTWARDSa!RIGHTWARDS HARPOON WITH BARB UPWARDSa",
   "BDOWNWARDSa!DOWNWARDS HARPOON WITH BARB RIGHTWARDSaALEFTWARDSa!RIGHTWARDS ARROW OVER LEFTWARDS A",
   "RROWa!UPWARDS ARROW LEFTWARDS OF DOWNWARDS ARROWa!LEFTWARDS ARROW OVER RIGHTWARDS ARROWa.PAIRED ",
   "ARROWSa!UPWARDS PAIRED ARROWSa!RIGHTWARDS PAIRED ARROWSa!DOWNWARDS PAIRED ARROWSa!LEFTWARDS HARP",
   "OON OVER RIGHTWARDS HARPOONa!RIGHTWARDS HARPOON OVER LEFTWARDS HARPOONa!LEFTWARDS DOUBLE ARROW W",
   "ITH STROKEa& RIGHT DOUBLE ARROW WITH STROKEa!RIGHTWARDS DOUBLE ARROW WITH STROKEa!LEFTWARDS DOUB",
   "LE ARROWa!UPWARDS DOUBLE ARROWa!RIGHTWARDS DOUBLE ARROWa!DOWNWARDS DOUBLE ARROWa!LEFT RIGHT DOUB",
   "LE ARROWa!UP DOWN DOUBLE ARROWa!NORTH WEST DOUBLE ARROWa)EAST DOUBLE ARROWa!SOUTH EAST DOUBLE AR",
   "ROWa)WEST DOUBLE ARROWa!LEFTWARDS TRIPLE ARROWa!RIGHTWARDS TRIPLE ARROWa!LEFTWARDS SQUIGGLE ARRO",
   "Wa!RIGHTWARDS SQUIGGLE ARROWa!UPWARDS ARROW WITH DOUBLE STROKEa!DOWNWARDS ARROW WITH DOUBLE STRO",
   "KEa!LEFTWARDS DASHED ARROWa!UPWARDS DASHED ARROWa!RIGHTWARDS DASHED ARROWa!DOWNWARDS DASHED ARRO",
   "Wa!LEFTWARDS ARROW TO BARa!RIGHTWARDS ARROW TO BARa!LEFTWARDS WHITE ARROWa!UPWARDS WHITE ARROWa!",
   "RIGHTWARDS WHITE ARROWa!DOWNWARDS WHITE ARROWa!UPWARDS WHITE ARROW FROM BARa9ON PEDESTALaD WITH ",
   "HORIZONTAL BARaJVERTICAL BARa3DOUBLE ARROWa? ON PEDESTALa!RIGHTWARDS WHITE ARROW FROM WALLa!NORT",
   "H WEST ARROW TO CORNERa!SOUTH EAST ARROW TO CORNERa!UP DOWN WHITE ARROWa!RIGHT ARROW WITH SMALL ",
   "CIRCLEa!DOWNWARDS ARROW LEFTWARDS OF UPWARDS ARROWa!THREE RIGHTWARDS ARROWSa!LEFTWARDS ARROW WIT",
   "H VERTICAL STROKEa!RIGHTWARDS ARROW WITH VERTICAL STROKEa!LEFT RIGHT ARROW WITH VERTICAL STROKEa",
   "&WARDS ARROW WITH DOUBLE VERTICAL STROKEa!RIGHTWARDS ARROW WITH DOUBLE VERTICAL STROKEa!LEFT RIG",
   "HT ARROW WITH DOUBLE VERTICAL STROKEa&WARDS OPEN-HEADED ARROWa!RIGHTWARDS OPEN-HEADED ARROWa!LEF",
   "T RIGHT OPEN-HEADED ARROWa!FOR ALLa!COMPLEMENTa!PARTIAL DIFFERENTIALa!THERE EXISTSa)DOES NOT EXI",
   "STa!EMPTY SETa!INCREMENTa!NABLAa!ELEMENT OFa!NOT AN ELEMENT OFa!SMALL ELEMENT OFa!CONTAINS AS ME",
   "MBERa!DOES NOT CONTAIN AS MEMBERa!SMALL CONTAINS AS MEMBERa!END OF PROOFa!N-ARY PRODUCTa)COPRODU",
   "CTa)SUMMATIONa!MINUS SIGNa(-OR-PLUS SIGNa!DOT PLUSa#IVISION SLASHa!SET MINUSa!ASTERISK OPERATORa",
   "!RING OPERATORa!BULLET OPERATORa!SQUARE ROOTa!CUBE ROOTa!FOURTH ROOTa!PROPORTIONAL TOa!INFINITYa",
   "!RIGHT ANGLEa!ANGLEa!MEASURED ANGLEa!SPHERICAL ANGLEa!DIVIDESa#OES NOT DIVIDEa!PARALLEL TOa!NOT ",
   "PARALLEL TOa!LOGICAL ANDa+ORa!INTERSECTIONa!UNIONa!INTEGRALa!DOUBLE INTEGRALa!TRIPLE INTEGRALa!C",
   "ONTOUR INTEGRALa!SURFACE INTEGRALa!VOLUME INTEGRALa!CLOCKWISE INTEGRALa.CONTOUR INTEGRALa!ANTICL",
   "OCKWISE CONTOUR INTEGRALa!THEREFOREa!BECAUSEa!RATIOa!PROPORTIONa!DOT MINUSa!EXCESSa!GEOMETRIC PR",
   "OPORTIONa!HOMOTHETICa!TILDE OPERATORa!REVERSED TILDEa!INVERTED LAZY Sa!SINE WAVEa!WREATH PRODUCT",
   "a!NOT TILDEa!MINUS TILDEa!ASYMPTOTICALLY EQUAL TOa!NOT ASYMPTOTICALLY EQUAL TOa!APPROXIMATELY EQ",
   "UAL TOa3BUT NOT ACTUALLY EQUAL TOa!NEITHER APPROXIMATELY NOR ACTUALLY EQUAL TOa!ALMOST EQUAL TOa",
   "!NOT ALMOST EQUAL TOa!ALMOST EQUAL OR EQUAL TOa!TRIPLE TILDEa!ALL EQUAL TOa!EQUIVALENT TOa!GEOME",
   "TRICALLY EQUIVALENT TOa!DIFFERENCE BETWEENa!APPROACHES THE LIMITa!GEOMETRICALLY EQUAL TOa!APPROX",
   "IMATELY EQUAL TO OR THE IMAGE OFa!IMAGE OF OR APPROXIMATELY EQUAL TOa!COLON EQUALSa!EQUALS COLON",
   "a!RING IN EQUAL TOa(EQUAL TOa!CORRESPONDS TOa!ESTIMATESa#QUIANGULAR TOa!STAR EQUALSa!DELTA EQUAL",
   " TOa!EQUAL TO BY DEFINITIONa!MEASURED BYa!QUESTIONED EQUAL TOa!NOT EQUAL TOa!IDENTICAL TOa!NOT I",
   "DENTICAL TOa!STRICTLY EQUIVALENT TOa!LESS-THAN OR EQUAL TOa!GREATER-THAN OR EQUAL TOa!LESS-THAN ",
   "OVER EQUAL TOa!GREATER-THAN OVER EQUAL TOa!LESS-THAN BUT NOT EQUAL TOa!GREATER-THAN BUT NOT EQUA",
   "L TOa!MUCH LESS-THANa(GREATER-THANa!BETWEENa!NOT EQUIVALENT TOa&LESS-THANa&GREATER-THANa#EITHER ",
   "LESS-THAN NOR EQUAL TOa+GREATER-THAN NOR EQUAL TOa!LESS-THAN OR EQUIVALENT TOa!GREATER-THAN OR E",
   "QUIVALENT TOa!NEITHER LESS-THAN NOR EQUIVALENT TOa+GREATER-THAN NOR EQUIVALENT TOa!LESS-THAN OR ",
   "GREATER-THANa!GREATER-THAN OR LESS-THANa!NEITHER LESS-THAN NOR GREATER-THANa+GREATER-THAN NOR LE",
   "SS-THANa!PRECEDESa!SUCCEEDSa!PRECEDES OR EQUAL TOa!SUCCEEDS OR EQUAL TOa!PRECEDES OR EQUIVALENT ",
   "TOa!SUCCEEDS OR EQUIVALENT TOa!DOES NOT PRECEDEa,SUCCEEDa!SUBSET OFa$PERSET OFa!NOT A SUBSET OFa",
   "+PERSET OFa!SUBSET OF OR EQUAL TOa$PERSET OF OR EQUAL TOa!NEITHER A SUBSET OF NOR EQUAL TOa1PERS",
   "ET OF NOR EQUAL TOa!SUBSET OF WITH NOT EQUAL TOa$PERSET OF WITH NOT EQUAL TOa!MULTISETa+ MULTIPL",
   "ICATIONa,UNIONa!SQUARE IMAGE OFa*ORIGINAL OFa*IMAGE OF OR EQUAL TOa*ORIGINAL OF OR EQUAL TOa*CAP",
   "a+UPa!CIRCLED PLUSa+MINUSa+TIMESa+DIVISION SLASHa,OT OPERATORa+RING OPERATORa+ASTERISK OPERATORa",
   "+EQUALSa+DASHa!SQUARED PLUSa+MINUSa+TIMESa+DOT OPERATORa!RIGHT TACKa!LEFT TACKa!DOWN TACKa!UP TA",
   "CKa!ASSERTIONa!MODELSa!TRUEa!FORCESa!TRIPLE VERTICAL BAR RIGHT TURNSTILEa!DOUBLE VERTICAL BAR DO",
   "UBLE RIGHT TURNSTILEa$ES NOT PROVEa!NOT TRUEa!DOES NOT FORCEa!NEGATED DOUBLE VERTICAL BAR DOUBLE",
   " RIGHT TURNSTILEa!PRECEDES UNDER RELATIONa!SUCCEEDS UNDER RELATIONa!NORMAL SUBGROUP OFa!CONTAINS",
   " AS NORMAL SUBGROUPa!NORMAL SUBGROUP OF OR EQUAL TOa!CONTAINS AS NORMAL SUBGROUP OR EQUAL TOa!OR",
   "IGINAL OFa!IMAGE OFa!MULTIMAPa!HERMITIAN CONJUGATE MATRIXa!INTERCALATEa!XORa!NANDa#ORa!RIGHT ANG",
   "LE WITH ARCa)TRIANGLEa!N-ARY LOGICAL ANDa3ORa)INTERSECTIONa)UNIONa!DIAMOND OPERATORa#OT OPERATOR",
   "a!STAR OPERATORa!DIVISION TIMESa!BOWTIEa!LEFT NORMAL FACTOR SEMIDIRECT PRODUCTa!RIGHT NORMAL FAC",
   "TOR SEMIDIRECT PRODUCTa!LEFT SEMIDIRECT PRODUCTa!RIGHT SEMIDIRECT PRODUCTa#EVERSED TILDE EQUALSa",
   "!CURLY LOGICAL ORa3ANDa!DOUBLE SUBSETa,PERSETa*INTERSECTIONa*UNIONa!PITCHFORKa!EQUAL AND PARALLE",
   "L TOa!LESS-THAN WITH DOTa!GREATER-THAN WITH DOTa!VERY MUCH LESS-THANa.GREATER-THANa!LESS-THAN EQ",
   "UAL TO OR GREATER-THANa!GREATER-THAN EQUAL TO OR LESS-THANa!EQUAL TO OR LESS-THANa1GREATER-THANa",
   "1PRECEDESa1SUCCEEDSa!DOES NOT PRECEDE OR EQUALa,SUCCEED OR EQUALa!NOT SQUARE IMAGE OF OR EQUAL T",
   "Oa0ORIGINAL OF OR EQUAL TOa!SQUARE IMAGE OF OR NOT EQUAL TOa*ORIGINAL OF OR NOT EQUAL TOa!LESS-T",
   "HAN BUT NOT EQUIVALENT TOa!GREATER-THAN BUT NOT EQUIVALENT TOa!PRECEDES BUT NOT EQUIVALENT TOa!S",
   "UCCEEDS BUT NOT EQUIVALENT TOa!NOT NORMAL SUBGROUP OFa!DOES NOT CONTAIN AS NORMAL SUBGROUPa!NOT ",
   "NORMAL SUBGROUP OF OR EQUAL TOa!DOES NOT CONTAIN AS NORMAL SUBGROUP OR EQUALa!VERTICAL ELLIPSISa",
   "!MIDLINE HORIZONTAL ELLIPSISa!UP RIGHT DIAGONAL ELLIPSISa!DOWN RIGHT DIAGONAL ELLIPSISa!ELEMENT ",
   "OF WITH LONG HORIZONTAL STROKEa5VERTICAL BAR AT END OF HORIZONTAL STROKEa!SMALL ELEMENT OF WITH ",
   "VERTICAL BAR AT END OF HORIZONTAL STROKEa!ELEMENT OF WITH DOT ABOVEa5OVERBARa!SMALL ELEMENT OF W",
   "ITH OVERBARa!ELEMENT OF WITH UNDERBARa5TWO HORIZONTAL STROKESa!CONTAINS WITH LONG HORIZONTAL STR",
   "OKEa3VERTICAL BAR AT END OF HORIZONTAL STROKEa!SMALL CONTAINS WITH VERTICAL BAR AT END OF HORIZO",
   "NTAL STROKEa!CONTAINS WITH OVERBARa!SMALL CONTAINS WITH OVERBARa!Z NOTATION BAG MEMBERSHIPa!DIAM",
   "ETER SIGNa!ELECTRIC ARROWa!HOUSEa!UP ARROWHEADa!DOWN ARROWHEADa!PROJECTIVEa#ERSPECTIVEa!WAVY LIN",
   "Ea!LEFT CEILINGa!RIGHT CEILINGa!LEFT FLOORa!RIGHT FLOORa!BOTTOM RIGHT CROPa*LEFT CROPa!TOP RIGHT",
   " CROPa&LEFT CROPa!REVERSED NOT SIGNa!SQUARE LOZENGEa!ARCa!SEGMENTa$CTORa!TELEPHONE RECORDERa!POS",
   "ITION INDICATORa!VIEWDATA SQUAREa!PLACE OF INTEREST SIGNa!TURNED NOT SIGNa!WATCHa!HOURGLASSa!TOP",
   " LEFT CORNERa&RIGHT CORNERa!BOTTOM LEFT CORNERa*RIGHT CORNERa!TOP HALF INTEGRALa!BOTTOM HALF INT",
   "EGRALa!FROWNa!SMILEa!UP ARROWHEAD BETWEEN TWO HORIZONTAL BARSa!OPTION KEYa!ERASE TO THE RIGHTa!X",
   " IN A RECTANGLE BOXa!KEYBOARDa!LEFT-POINTING ANGLE BRACKETa!RIGHT-POINTING ANGLE BRACKETa!ERASE ",
   "TO THE LEFTa!BENZENE RINGa!CYLINDRICITYa!ALL AROUND-PROFILEa!SYMMETRYa!TOTAL RUNOUTa!DIMENSION O",
   "RIGINa!CONICAL TAPERa!SLOPEa!COUNTERBOREa*SINKa!APL FUNCTIONAL SYMBOL I-BEAMa;SQUISH QUADa;QUAD ",
   "EQUALa@DIVIDEaBAMONDa@JOTa@CIRCLEa;CIRCLE STILEaBJOTa;SLASH BARa;BACKSLASH BARa;QUAD SLASHa@BACK",
   "SLASHa@LESS-THANa@GREATER-THANa;LEFTWARDS VANEa;RIGHTWARDS VANEa;QUAD LEFTWARDS ARROWa@RIGHTWARD",
   "S ARROWa;CIRCLE BACKSLASHa;DOWN TACK UNDERBARa<ELTA STILEa;QUAD DOWN CARETaAELTAa;DOWN TACK JOTa",
   ";UPWARDS VANEa;QUAD UPWARDS ARROWa;UP TACK OVERBARa;DEL STILEa;QUAD UP CARETa@DELa;UP TACK JOTa;",
   "DOWNWARDS VANEa;QUAD DOWNWARDS ARROWa=OTE UNDERBARa;DELTA UNDERBARa<IAMOND UNDERBARa;JOT UNDERBA",
   "Ra;CIRCLE UNDERBARa;UP SHOE JOTa;QUOTE QUADa;CIRCLE STARa;QUAD COLONa;UP TACK DIAERESISa;DEL DIA",
   "ERESISa;STAR DIAERESISa;JOT DIAERESISa;CIRCLE DIAERESISa;DOWN SHOE STILEa;LEFT SHOE STILEa;TILDE",
   " DIAERESISa;GREATER-THAN DIAERESISa;COMMA BARa;DEL TILDEa;ZILDEa;STILE TILDEa<EMICOLON UNDERBARa",
   ";QUAD NOT EQUALa@QUESTIONa;DOWN CARET TILDEa;UP CARET TILDEa;IOTAa;RHOa;OMEGAa;ALPHA UNDERBARa;E",
   "PSILON UNDERBARa;IOTA UNDERBARa;OMEGA UNDERBARa;ALPHAa!NOT CHECK MARKa!RIGHT ANGLE WITH DOWNWARD",
   "S ZIGZAG ARROWa!SHOULDERED OPEN BOXa!BELL SYMBOLa!VERTICAL LINE WITH MIDDLE DOTa!INSERTION SYMBO",
   "La!CONTINUOUS UNDERLINE SYMBOLa!DISCONTINUOUS UNDERLINE SYMBOLa!EMPHASIS SYMBOLa!COMPOSITION SYM",
   "BOLa!WHITE SQUARE WITH CENTRE VERTICAL LINEa!ENTER SYMBOLa!ALTERNATIVE KEY SYMBOLa!HELM SYMBOLa!",
   "CIRCLED HORIZONTAL BAR WITH NOTCHa+TRIANGLE DOWNa!BROKEN CIRCLE WITH NORTHWEST ARROWa!UNDO SYMBO",
   "La!MONOSTABLE SYMBOLa!HYSTERESIS SYMBOLa!OPEN-CIRCUIT-OUTPUT H-TYPE SYMBOLa9L-TYPE SYMBOLa!PASSI",
   "VE-PULL-DOWN-OUTPUT SYMBOLa2UP-OUTPUT SYMBOLa!DIRECT CURRENT SYMBOL FORM TWOa!SOFTWARE-FUNCTION ",
   "SYMBOLa!APL FUNCTIONAL SYMBOL QUADa!DECIMAL SEPARATOR KEY SYMBOLa!PREVIOUS PAGEa!NEXT PAGEa!PRIN",
   "T SCREEN SYMBOLa!CLEAR SCREEN SYMBOLa!LEFT PARENTHESIS UPPER HOOKa6EXTENSIONa6LOWER HOOKa!RIGHT ",
   "PARENTHESIS UPPER HOOKa7EXTENSIONa7LOWER HOOKa!LEFT SQUARE BRACKET UPPER CORNERa9EXTENSIONa9LOWE",
   "R CORNERa!RIGHT SQUARE BRACKET UPPER CORNERa:EXTENSIONa:LOWER CORNERa!LEFT CURLY BRACKET UPPER H",
   "OOKa8MIDDLE PIECEa8LOWER HOOKa!CURLY BRACKET EXTENSIONa!RIGHT CURLY BRACKET UPPER HOOKa9MIDDLE P",
   "IECEa9LOWER HOOKa!INTEGRAL EXTENSIONa!HORIZONTAL LINE EXTENSIONa!UPPER LEFT OR LOWER RIGHT CURLY",
   " BRACKET SECTIONa)RIGHT OR LOWER LEFT CURLY BRACKET SECTIONa!SUMMATION TOPa.BOTTOMa!TOP SQUARE B",
   "RACKETa!BOTTOM SQUARE BRACKETa: OVER TOP SQUARE BRACKETa!RADICAL SYMBOL BOTTOMa!LEFT VERTICAL BO",
   "X LINEa!RIGHT VERTICAL BOX LINEa!HORIZONTAL SCAN LINE-1a:3a:7a:9a!DENTISTRY SYMBOL LIGHT VERTICA",
   "L AND TOP RIGHTaIBOTTOM RIGHTaEWITH CIRCLEa<DOWN AND HORIZONTAL WITH CIRCLEa<UP AND HORIZONTAL W",
   "ITH CIRCLEa<VERTICAL WITH TRIANGLEa<DOWN AND HORIZONTAL WITH TRIANGLEa<UP AND HORIZONTAL WITH TR",
   "IANGLEa<VERTICAL AND WAVEa<DOWN AND HORIZONTAL WITH WAVEa<UP AND HORIZONTAL WITH WAVEa<DOWN AND ",
   "HORIZONTALa<UP AND HORIZONTALa<VERTICAL AND TOP LEFTaIBOTTOM LEFTa!SQUARE FOOTa!RETURN SYMBOLa!E",
   "JECT SYMBOLa!VERTICAL LINE EXTENSIONa!METRICAL BREVEa,LONG OVER SHORTa,SHORT OVER LONGa,LONG OVE",
   "R TWO SHORTSa,TWO SHORTS OVER LONGa9JOINEDa.RISEMEa.ETRASEMEa,PENTASEMEa!EARTH GROUNDa!FUSEa!TOP",
   " PARENTHESISa!BOTTOM PARENTHESISa!TOP CURLY BRACKETa!BOTTOM CURLY BRACKETa!TOP TORTOISE SHELL BR",
   "ACKETa!BOTTOM TORTOISE SHELL BRACKETa!WHITE TRAPEZIUMa!BENZENE RING WITH CIRCLEa!STRAIGHTNESSa!F",
   "LATNESSa!AC CURRENTa!ELECTRICAL INTERSECTIONa!DECIMAL EXPONENT SYMBOLa!BLACK RIGHT-POINTING DOUB",
   "LE TRIANGLEa)LEFT-POINTING DOUBLE TRIANGLEa)UP-POINTING DOUBLE TRIANGLEa)DOWN-POINTING DOUBLE TR",
   "IANGLEa)RIGHT-POINTING DOUBLE TRIANGLE WITH VERTICAL BARa)LEFT-POINTING DOUBLE TRIANGLE WITH VER",
   "TICAL BARa)RIGHT-POINTING TRIANGLE WITH DOUBLE VERTICAL BARa!ALARM CLOCKa!STOPWATCHa!TIMER CLOCK",
   "a!HOURGLASS WITH FLOWING SANDa!BLACK MEDIUM LEFT-POINTING TRIANGLEa2RIGHT-POINTING TRIANGLEa2UP-",
   "POINTING TRIANGLEa2DOWN-POINTING TRIANGLEa!DOUBLE VERTICAL BARa!BLACK SQUARE FOR STOPa)CIRCLE FO",
   "R RECORDa!POWER SYMBOLa)ON-OFF SYMBOLa+ SYMBOLa)SLEEP SYMBOLa!OBSERVER EYE SYMBOLa!SYMBOL FOR NU",
   "LLa0START OF HEADINGa9TEXTa0END OF TEXTa8RANSMISSIONa2QUIRYa0ACKNOWLEDGEa0BELLa1ACKSPACEa0HORIZO",
   "NTAL TABULATIONa0LINE FEEDa0VERTICAL TABULATIONa0FORM FEEDa0CARRIAGE RETURNa0SHIFT OUTa6INa0DATA",
   " LINK ESCAPEa1EVICE CONTROL ONEa?TWOa@HREEa?FOURa0NEGATIVE ACKNOWLEDGEa0SYNCHRONOUS IDLEa0END OF",
   " TRANSMISSION BLOCKa0CANCELa0END OF MEDIUMa0SUBSTITUTEa0ESCAPEa0FILE SEPARATORa0GROUP SEPARATORa",
   "0RECORD SEPARATORa0UNIT SEPARATORa0SPACEa0DELETEa!BLANK SYMBOLa!OPEN BOXa!SYMBOL FOR NEWLINEa0DE",
   "LETE FORM TWOa0SUBSTITUTE FORM TWOz!OCR HOOKa&CHAIRa&FORKa&INVERTED FORKa&BELT BUCKLEa(OW TIEa(R",
   "ANCH BANK IDENTIFICATIONa&AMOUNT OF CHECKa&DASH!0!!MICR ON US SYMBOLa!OCR CUSTOMER ACCOUNT NUMBE",
   "R!0!!MICR DASH SYMBOLa!OCR DOUBLE BACKSLASHv!CIRCLED DIGIT ONEa3TWOa4HREEa3FOURa4IVEa3SIXa4EVENa",
   "3EIGHTa3NINEa+NUMBER TENa4ELEVENa4TWELVEa5HIRTEENa4FOURTEENa5IFTEENa4SIXTEENa5EVENTEENa4EIGHTEEN",
   "a4NINETEENa4TWENTYa!PARENTHESIZED DIGIT ONEa9TWOa:HREEa9FOURa:IVEa9SIXa:EVENa9EIGHTa9NINEa3NUMBE",
   "R TENa:ELEVENa:TWELVEa;HIRTEENa:FOURTEENa;IFTEENa:SIXTEENa;EVENTEENa:EIGHTEENa:NINETEENa:TWENTYa",
   "!DIGIT ONE FULL STOPa)TWO FULL STOPa*HREE FULL STOPa)FOUR FULL STOPa*IVE FULL STOPa)SIX FULL STO",
   "Pa*EVEN FULL STOPa)EIGHT FULL STOPa)NINE FULL STOPa!NUMBER TEN FULL STOPa*ELEVEN FULL STOPa*TWEL",
   "VE FULL STOPa+HIRTEEN FULL STOPa*FOURTEEN FULL STOPa+IFTEEN FULL STOPa*SIXTEEN FULL STOPa+EVENTE",
   "EN FULL STOPa*EIGHTEEN FULL STOPa*NINETEEN FULL STOPa*TWENTY FULL STOPa!PARENTHESIZED LATIN SMAL",
   "L LETTER AaFBaFCaFDaFEaFFaFGaFHaFIaFJaFKaFLaFMaFNaFOaFPaFQaFRaFSaFTaFUaFVaFWaFXaFYaFZa!CIRCLED L",
   "ATIN CAPITAL LETTER AaBBaBCaBDaBEaBFaBGaBHaBIaBJaBKaBLaBMaBNaBOaBPaBQaBRaBSaBTaBUaBVaBWaBXaBYaBZ",
   "a3SMALL LETTER Aa@Ba@Ca@Da@Ea@Fa@Ga@Ha@Ia@Ja@Ka@La@Ma@Na@Oa@Pa@Qa@Ra@Sa@Ta@Ua@Va@Wa@Xa@Ya@Za+DIG",
   "IT ZEROa!NEGATIVE CIRCLED NUMBER ELEVENa=TWELVEa>HIRTEENa=FOURTEENa>IFTEENa=SIXTEENa>EVENTEENa=E",
   "IGHTEENa=NINETEENa=TWENTYa!DOUBLE CIRCLED DIGIT ONEa:TWOa;HREEa:FOURa;IVEa:SIXa;EVENa:EIGHTa:NIN",
   "Ea4NUMBER TENa!NEGATIVE CIRCLED DIGIT ZEROa!BOX DRAWINGS LIGHT HORIZONTALa2HEAVY HORIZONTALa2LIG",
   "HT VERTICALa2HEAVY VERTICALa2LIGHT TRIPLE DASH HORIZONTALa2HEAVY TRIPLE DASH HORIZONTALa2LIGHT T",
   "RIPLE DASH VERTICALa2HEAVY TRIPLE DASH VERTICALa2LIGHT QUADRUPLE DASH HORIZONTALa2HEAVY QUADRUPL",
   "E DASH HORIZONTALa2LIGHT QUADRUPLE DASH VERTICALa2HEAVY QUADRUPLE DASH VERTICALa2LIGHT DOWN AND ",
   "RIGHTa2DOWN LIGHT AND RIGHT HEAVYa7HEAVY AND RIGHT LIGHTa2HEAVY DOWN AND RIGHTa2LIGHT DOWN AND L",
   "EFTa2DOWN LIGHT AND LEFT HEAVYa7HEAVY AND LEFT LIGHTa2HEAVY DOWN AND LEFTa2LIGHT UP AND RIGHTa2U",
   "P LIGHT AND RIGHT HEAVYa5HEAVY AND RIGHT LIGHTa2HEAVY UP AND RIGHTa2LIGHT UP AND LEFTa2UP LIGHT ",
   "AND LEFT HEAVYa5HEAVY AND LEFT LIGHTa2HEAVY UP AND LEFTa2LIGHT VERTICAL AND RIGHTa2VERTICAL LIGH",
   "T AND RIGHT HEAVYa2UP HEAVY AND RIGHT DOWN LIGHTa2DOWN HEAVY AND RIGHT UP LIGHTa2VERTICAL HEAVY ",
   "AND RIGHT LIGHTa2DOWN LIGHT AND RIGHT UP HEAVYa2UP LIGHT AND RIGHT DOWN HEAVYa2HEAVY VERTICAL AN",
   "D RIGHTa2LIGHT VERTICAL AND LEFTa2VERTICAL LIGHT AND LEFT HEAVYa2UP HEAVY AND LEFT DOWN LIGHTa2D",
   "OWN HEAVY AND LEFT UP LIGHTa2VERTICAL HEAVY AND LEFT LIGHTa2DOWN LIGHT AND LEFT UP HEAVYa2UP LIG",
   "HT AND LEFT DOWN HEAVYa2HEAVY VERTICAL AND LEFTa2LIGHT DOWN AND HORIZONTALa3EFT HEAVY AND RIGHT ",
   "DOWN LIGHTa2RIGHT HEAVY AND LEFT DOWN LIGHTa2DOWN LIGHT AND HORIZONTAL HEAVYa7HEAVY AND HORIZONT",
   "AL LIGHTa2RIGHT LIGHT AND LEFT DOWN HEAVYa2LEFT LIGHT AND RIGHT DOWN HEAVYa2HEAVY DOWN AND HORIZ",
   "ONTALa2LIGHT UP AND HORIZONTALa3EFT HEAVY AND RIGHT UP LIGHTa2RIGHT HEAVY AND LEFT UP LIGHTa2UP ",
   "LIGHT AND HORIZONTAL HEAVYa5HEAVY AND HORIZONTAL LIGHTa2RIGHT LIGHT AND LEFT UP HEAVYa2LEFT LIGH",
   "T AND RIGHT UP HEAVYa2HEAVY UP AND HORIZONTALa2LIGHT VERTICAL AND HORIZONTALa3EFT HEAVY AND RIGH",
   "T VERTICAL LIGHTa2RIGHT HEAVY AND LEFT VERTICAL LIGHTa2VERTICAL LIGHT AND HORIZONTAL HEAVYa2UP H",
   "EAVY AND DOWN HORIZONTAL LIGHTa2DOWN HEAVY AND UP HORIZONTAL LIGHTa2VERTICAL HEAVY AND HORIZONTA",
   "L LIGHTa2LEFT UP HEAVY AND RIGHT DOWN LIGHTa2RIGHT UP HEAVY AND LEFT DOWN LIGHTa2LEFT DOWN HEAVY",
   " AND RIGHT UP LIGHTa2RIGHT DOWN HEAVY AND LEFT UP LIGHTa2DOWN LIGHT AND UP HORIZONTAL HEAVYa2UP ",
   "LIGHT AND DOWN HORIZONTAL HEAVYa2RIGHT LIGHT AND LEFT VERTICAL HEAVYa2LEFT LIGHT AND RIGHT VERTI",
   "CAL HEAVYa2HEAVY VERTICAL AND HORIZONTALa2LIGHT DOUBLE DASH HORIZONTALa2HEAVY DOUBLE DASH HORIZO",
   "NTALa2LIGHT DOUBLE DASH VERTICALa2HEAVY DOUBLE DASH VERTICALa2DOUBLE HORIZONTALa9VERTICALa4WN SI",
   "NGLE AND RIGHT DOUBLEa7DOUBLE AND RIGHT SINGLEa4UBLE DOWN AND RIGHTa4WN SINGLE AND LEFT DOUBLEa7",
   "DOUBLE AND LEFT SINGLEa4UBLE DOWN AND LEFTa2UP SINGLE AND RIGHT DOUBLEa5DOUBLE AND RIGHT SINGLEa",
   "2DOUBLE UP AND RIGHTa2UP SINGLE AND LEFT DOUBLEa5DOUBLE AND LEFT SINGLEa2DOUBLE UP AND LEFTa2VER",
   "TICAL SINGLE AND RIGHT DOUBLEa;DOUBLE AND RIGHT SINGLEa2DOUBLE VERTICAL AND RIGHTa2VERTICAL SING",
   "LE AND LEFT DOUBLEa;DOUBLE AND LEFT SINGLEa2DOUBLE VERTICAL AND LEFTa4WN SINGLE AND HORIZONTAL D",
   "OUBLEa7DOUBLE AND HORIZONTAL SINGLEa4UBLE DOWN AND HORIZONTALa2UP SINGLE AND HORIZONTAL DOUBLEa5",
   "DOUBLE AND HORIZONTAL SINGLEa2DOUBLE UP AND HORIZONTALa2VERTICAL SINGLE AND HORIZONTAL DOUBLEa;D",
   "OUBLE AND HORIZONTAL SINGLEa2DOUBLE VERTICAL AND HORIZONTALa2LIGHT ARC DOWN AND RIGHTaELEFTa<UP ",
   "AND LEFTaCRIGHTa8DIAGONAL UPPER RIGHT TO LOWER LEFTaGLEFT TO LOWER RIGHTaACROSSa8LEFTa8UPa8RIGHT",
   "a8DOWNa2HEAVY LEFTa8UPa8RIGHTa8DOWNa2LIGHT LEFT AND HEAVY RIGHTa8UP AND HEAVY DOWNa2HEAVY LEFT A",
   "ND LIGHT RIGHTa8UP AND LIGHT DOWNa!UPPER HALF BLOCKa!LOWER ONE EIGHTH BLOCKa.QUARTER BLOCKa)THRE",
   "E EIGHTHS BLOCKa)HALF BLOCKa)FIVE EIGHTHS BLOCKa)THREE QUARTERS BLOCKa)SEVEN EIGHTHS BLOCKa!FULL",
   " BLOCKa!LEFT SEVEN EIGHTHS BLOCKa(THREE QUARTERS BLOCKa(FIVE EIGHTHS BLOCKa(HALF BLOCKa(THREE EI",
   "GHTHS BLOCKa(ONE QUARTER BLOCKa,EIGHTH BLOCKa!RIGHT HALF BLOCKa!LIGHT SHADEa!MEDIUM SHADEa!DARK ",
   "SHADEa!UPPER ONE EIGHTH BLOCKa!RIGHT ONE EIGHTH BLOCKa!QUADRANT LOWER LEFTa4RIGHTa,UPPER LEFTa8 ",
   "AND LOWER LEFT AND LOWER RIGHTaCRIGHTa=UPPER RIGHT AND LOWER LEFTaSRIGHTa4RIGHTa9 AND LOWER LEFT",
   "aH AND LOWER RIGHTa!BLACK SQUAREa!WHITE SQUAREa1 WITH ROUNDED CORNERSa2CONTAINING BLACK SMALL SQ",
   "UAREa!SQUARE WITH HORIZONTAL FILLa1VERTICAL FILLa1ORTHOGONAL CROSSHATCH FILLa1UPPER LEFT TO LOWE",
   "R RIGHT FILLa7RIGHT TO LOWER LEFT FILLa1DIAGONAL CROSSHATCH FILLa!BLACK SMALL SQUAREa!WHITE SMAL",
   "L SQUAREa!BLACK RECTANGLEa!WHITE RECTANGLEa!BLACK VERTICAL RECTANGLEa!WHITE VERTICAL RECTANGLEa!",
   "BLACK PARALLELOGRAMa!WHITE PARALLELOGRAMa!BLACK UP-POINTING TRIANGLEa!WHITE UP-POINTING TRIANGLE",
   "a!BLACK UP-POINTING SMALL TRIANGLEa!WHITE UP-POINTING SMALL TRIANGLEa!BLACK RIGHT-POINTING TRIAN",
   "GLEa!WHITE RIGHT-POINTING TRIANGLEa!BLACK RIGHT-POINTING SMALL TRIANGLEa!WHITE RIGHT-POINTING SM",
   "ALL TRIANGLEa!BLACK RIGHT-POINTING POINTERa!WHITE RIGHT-POINTING POINTERa!BLACK DOWN-POINTING TR",
   "IANGLEa!WHITE DOWN-POINTING TRIANGLEa!BLACK DOWN-POINTING SMALL TRIANGLEa!WHITE DOWN-POINTING SM",
   "ALL TRIANGLEa!BLACK LEFT-POINTING TRIANGLEa!WHITE LEFT-POINTING TRIANGLEa!BLACK LEFT-POINTING SM",
   "ALL TRIANGLEa!WHITE LEFT-POINTING SMALL TRIANGLEa!BLACK LEFT-POINTING POINTERa!WHITE LEFT-POINTI",
   "NG POINTERa!BLACK DIAMONDa!WHITE DIAMONDa2 CONTAINING BLACK SMALL DIAMONDa!FISHEYEa!LOZENGEa!WHI",
   "TE CIRCLEa!DOTTED CIRCLEa!CIRCLE WITH VERTICAL FILLa!BULLSEYEa#LACK CIRCLEa!CIRCLE WITH LEFT HAL",
   "F BLACKa1RIGHT HALF BLACKa1LOWER HALF BLACKa1UPPER HALF BLACKa7RIGHT QUADRANT BLACKa1ALL BUT UPP",
   "ER LEFT QUADRANT BLACKa!LEFT HALF BLACK CIRCLEa!RIGHT HALF BLACK CIRCLEa!INVERSE BULLETa+WHITE C",
   "IRCLEa!UPPER HALF INVERSE WHITE CIRCLEa!LOWER HALF INVERSE WHITE CIRCLEa!UPPER LEFT QUADRANT CIR",
   "CULAR ARCa)RIGHT QUADRANT CIRCULAR ARCa!LOWER RIGHT QUADRANT CIRCULAR ARCa)LEFT QUADRANT CIRCULA",
   "R ARCa!UPPER HALF CIRCLEa!LOWER HALF CIRCLEa!BLACK LOWER RIGHT TRIANGLEa1LEFT TRIANGLEa)UPPER LE",
   "FT TRIANGLEa1RIGHT TRIANGLEa!WHITE BULLETa!SQUARE WITH LEFT HALF BLACKa1RIGHT HALF BLACKa1UPPER ",
   "LEFT DIAGONAL HALF BLACKa1LOWER RIGHT DIAGONAL HALF BLACKa!WHITE SQUARE WITH VERTICAL BISECTING ",
   "LINEa)UP-POINTING TRIANGLE WITH DOTa!UP-POINTING TRIANGLE WITH LEFT HALF BLACKa?RIGHT HALF BLACK",
   "a!LARGE CIRCLEa!WHITE SQUARE WITH UPPER LEFT QUADRANTa7LOWER LEFT QUADRANTa=RIGHT QUADRANTa7UPPE",
   "R RIGHT QUADRANTa)CIRCLE WITH UPPER LEFT QUADRANTa7LOWER LEFT QUADRANTa=RIGHT QUADRANTa7UPPER RI",
   "GHT QUADRANTa!UPPER LEFT TRIANGLEa)RIGHT TRIANGLEa!LOWER LEFT TRIANGLEa!WHITE MEDIUM SQUAREa!BLA",
   "CK MEDIUM SQUAREa!WHITE MEDIUM SMALL SQUAREa!BLACK MEDIUM SMALL SQUAREa!LOWER RIGHT TRIANGLEa!BL",
   "ACK SUN WITH RAYSa!CLOUDa!UMBRELLAa!SNOWMANa!COMETa!BLACK STARa!WHITE STARa!LIGHTNINGa!THUNDERST",
   "ORMa!SUNa!ASCENDING NODEa!DESCENDING NODEa!CONJUNCTIONa!OPPOSITIONa!BLACK TELEPHONEa!WHITE TELEP",
   "HONEa!BALLOT BOXa. WITH CHECKa5Xa!SALTIREa!UMBRELLA WITH RAIN DROPSa!HOT BEVERAGEa!WHITE SHOGI P",
   "IECEa!BLACK SHOGI PIECEa!SHAMROCKa!REVERSED ROTATED FLORAL HEART BULLETa!BLACK LEFT POINTING IND",
   "EXa)RIGHT POINTING INDEXa!WHITE LEFT POINTING INDEXa)UP POINTING INDEXa)RIGHT POINTING INDEXa)DO",
   "WN POINTING INDEXa!SKULL AND CROSSBONESa!CAUTION SIGNa!RADIOACTIVE SIGNa!BIOHAZARD SIGNa!CADUCEU",
   "Sa!ANKHa!ORTHODOX CROSSa!CHI RHOa#ROSS OF LORRAINEa,JERUSALEMa!STAR AND CRESCENTa!FARSI SYMBOLa!",
   "ADI SHAKTIa!HAMMER AND SICKLEa!PEACE SYMBOLa!YIN YANGa!TRIGRAM FOR HEAVENa1LAKEa1FIREa1THUNDERa1",
   "WINDa2ATERa1MOUNTAINa1EARTHa!WHEEL OF DHARMAa$ITE FROWNING FACEa)SMILING FACEa!BLACK SMILING FAC",
   "Ea!WHITE SUN WITH RAYSa!FIRST QUARTER MOONa!LAST QUARTER MOONa!MERCURYa!FEMALE SIGNa!EARTHa!MALE",
   " SIGNa!JUPITERa!SATURNa!URANUSa!NEPTUNEa!PLUTOa!ARIESa!TAURUSa!GEMINIa!CANCERa!LEOa!VIRGOa!LIBRA",
   "a!SCORPIUSa#AGITTARIUSa!CAPRICORNa!AQUARIUSa!PISCESa!WHITE CHESS KINGa1QUEENa1ROOKa1BISHOPa1KNIG",
   "HTa1PAWNa!BLACK CHESS KINGa1QUEENa1ROOKa1BISHOPa1KNIGHTa1PAWNa)SPADE SUITa!WHITE HEART SUITa)DIA",
   "MOND SUITa!BLACK CLUB SUITa!WHITE SPADE SUITa!BLACK HEART SUITa)DIAMOND SUITa!WHITE CLUB SUITa!H",
   "OT SPRINGSa!QUARTER NOTEa!EIGHTH NOTEa!BEAMED EIGHTH NOTESa*SIXTEENTH NOTESa!MUSIC FLAT SIGNa)NA",
   "TURAL SIGNa)SHARP SIGNa!WEST SYRIAC CROSSa!EAST SYRIAC CROSSa!UNIVERSAL RECYCLING SYMBOLa!RECYCL",
   "ING SYMBOL FOR TYPE-1 PLASTICSa?2 PLASTICSa?3 PLASTICSa?4 PLASTICSa?5 PLASTICSa?6 PLASTICSa?7 PL",
   "ASTICSa:GENERIC MATERIALSa!BLACK UNIVERSAL RECYCLING SYMBOLa!RECYCLED PAPER SYMBOLa!PARTIALLY-RE",
   "CYCLED PAPER SYMBOLa#ERMANENT PAPER SIGNa!WHEELCHAIR SYMBOLa!DIE FACE-1a,2a,3a,4a,5a,6a!WHITE CI",
   "RCLE WITH DOT RIGHTa7TWO DOTSa!BLACK CIRCLE WITH WHITE DOT RIGHTa7TWO WHITE DOTSa!MONOGRAM FOR Y",
   "ANGa3INa!DIGRAM FOR GREATER YANGa0LESSER YINa8ANGa0GREATER YINa!WHITE FLAGa!BLACK FLAGa!HAMMER A",
   "ND PICKa!ANCHORa!CROSSED SWORDSa!STAFF OF AESCULAPIUSa#CALESa!ALEMBICa!FLOWERa!GEARa!STAFF OF HE",
   "RMESa!ATOM SYMBOLa!FLEUR-DE-LISa!OUTLINED WHITE STARa!THREE LINES CONVERGING RIGHTa<LEFTa!WARNIN",
   "G SIGNa!HIGH VOLTAGE SIGNa!DOUBLED FEMALE SIGNa+MALE SIGNa!INTERLOCKED FEMALE AND MALE SIGNa!MAL",
   "E AND FEMALE SIGNa(WITH STROKE SIGNa6AND MALE AND FEMALE SIGNa!VERTICAL MALE WITH STROKE SIGNa!H",
   "ORIZONTAL MALE WITH STROKE SIGNa!MEDIUM WHITE CIRCLEa*BLACK CIRCLEa*SMALL WHITE CIRCLEa#ARRIAGE ",
   "SYMBOLa!DIVORCE SYMBOLa!UNMARRIED PARTNERSHIP SYMBOLa!COFFINa!FUNERAL URNa!NEUTERa!CERESa!PALLAS",
   "a!JUNOa!VESTAa!CHIRONa!BLACK MOON LILITHa!SEXTILEa$MISEXTILEa!QUINCUNXa!SESQUIQUADRATEa#OCCER BA",
   "LLa!BASEBALLa!SQUARED KEYa!WHITE DRAUGHTS MANa4KINGa!BLACK DRAUGHTS MANa4KINGa!SNOWMAN WITHOUT S",
   "NOWa#UN BEHIND CLOUDa!RAINa!BLACK SNOWMANa!THUNDER CLOUD AND RAINa#URNED WHITE SHOGI PIECEa*BLAC",
   "K SHOGI PIECEa!WHITE DIAMOND IN SQUAREa!CROSSING LANESa!DISABLED CARa!OPHIUCHUSa!PICKa!CAR SLIDI",
   "NGa!HELMET WITH WHITE CROSSa!CIRCLED CROSSING LANESa#HAINSa!NO ENTRYa!ALTERNATE ONE-WAY LEFT WAY",
   " TRAFFICa!BLACK TWO-WAY LEFT WAY TRAFFICa!WHITE TWO-WAY LEFT WAY TRAFFICa!BLACK LEFT LANE MERGEa",
   "!WHITE LEFT LANE MERGEa!DRIVE SLOW SIGNa!HEAVY WHITE DOWN-POINTING TRIANGLEa!LEFT CLOSED ENTRYa!",
   "SQUARED SALTIREa!FALLING DIAGONAL IN WHITE CIRCLE IN BLACK SQUAREa!BLACK TRUCKa!RESTRICTED LEFT ",
   "ENTRY-1a;2a!ASTRONOMICAL SYMBOL FOR URANUSa!HEAVY CIRCLE WITH STROKE AND TWO DOTS ABOVEa!PENTAGR",
   "AMa!RIGHT-HANDED INTERLACED PENTAGRAMa!LEFT-HANDED INTERLACED PENTAGRAMa!INVERTED PENTAGRAMa!BLA",
   "CK CROSS ON SHIELDa!SHINTO SHRINEa!CHURCHa#ASTLEa!HISTORIC SITEa!GEAR WITHOUT HUBa, HANDLESa!MAP",
   " SYMBOL FOR LIGHTHOUSEa#OUNTAINa!UMBRELLA ON GROUNDa!FOUNTAINa#LAG IN HOLEa#ERRYa!SAILBOATa#QUAR",
   "E FOUR CORNERSa#KIERa!ICE SKATEa!PERSON WITH BALLa!TENTa!JAPANESE BANK SYMBOLa!HEADSTONE GRAVEYA",
   "RD SYMBOLa!FUEL PUMPa!CUP ON BLACK SQUAREa!WHITE FLAG WITH HORIZONTAL MIDDLE BLACK STRIPEa!BLACK",
   " SAFETY SCISSORSa!UPPER BLADE SCISSORSa!BLACK SCISSORSa!LOWER BLADE SCISSORSa!WHITE SCISSORSa)HE",
   "AVY CHECK MARKa!TELEPHONE LOCATION SIGNa#APE DRIVEa!AIRPLANEa!ENVELOPEa!RAISED FISTa*HANDa!VICTO",
   "RY HANDa!WRITING HANDa!LOWER RIGHT PENCILa!PENCILa!UPPER RIGHT PENCILa!WHITE NIBa!BLACK NIBa!CHE",
   "CK MARKa!HEAVY CHECK MARKa!MULTIPLICATION Xa!HEAVY MULTIPLICATION Xa!BALLOT Xa!HEAVY BALLOT Xa!O",
   "UTLINED GREEK CROSSa!HEAVY GREEK CROSSa!OPEN CENTRE CROSSa!HEAVY OPEN CENTRE CROSSa!LATIN CROSSa",
   "!SHADOWED WHITE LATIN CROSSa!OUTLINED LATIN CROSSa!MALTESE CROSSa!STAR OF DAVIDa!FOUR TEARDROP-S",
   "POKED ASTERISKa(BALLOON-SPOKED ASTERISKa!HEAVY FOUR BALLOON-SPOKED ASTERISKa!FOUR CLUB-SPOKED AS",
   "TERISKa!BLACK FOUR POINTED STARa!WHITE FOUR POINTED STARa!SPARKLESa#TRESS OUTLINED WHITE STARa!C",
   "IRCLED WHITE STARa!OPEN CENTRE BLACK STARa!BLACK CENTRE WHITE STARa!OUTLINED BLACK STARa!HEAVY O",
   "UTLINED BLACK STARa!PINWHEEL STARa!SHADOWED WHITE STARa!HEAVY ASTERISKa!OPEN CENTRE ASTERISKa!EI",
   "GHT SPOKED ASTERISKa)POINTED BLACK STARa3PINWHEEL STARa!SIX POINTED BLACK STARa!EIGHT POINTED RE",
   "CTILINEAR BLACK STARa!HEAVY EIGHT POINTED RECTILINEAR BLACK STARa!TWELVE POINTED BLACK STARa!SIX",
   "TEEN POINTED ASTERISKa!TEARDROP-SPOKED ASTERISKa!OPEN CENTRE TEARDROP-SPOKED ASTERISKa!HEAVY TEA",
   "RDROP-SPOKED ASTERISKa!SIX PETALLED BLACK AND WHITE FLORETTEa!BLACK FLORETTEa!WHITE FLORETTEa!EI",
   "GHT PETALLED OUTLINED BLACK FLORETTEa!CIRCLED OPEN CENTRE EIGHT POINTED STARa!HEAVY TEARDROP-SPO",
   "KED PINWHEEL ASTERISKa!SNOWFLAKEa!TIGHT TRIFOLIATE SNOWFLAKEa!HEAVY CHEVRON SNOWFLAKEa!SPARKLEa!",
   "HEAVY SPARKLEa!BALLOON-SPOKED ASTERISKa!EIGHT TEARDROP-SPOKED PROPELLER ASTERISKa!HEAVY EIGHT TE",
   "ARDROP-SPOKED PROPELLER ASTERISKa!CROSS MARKa!SHADOWED WHITE CIRCLEa!NEGATIVE SQUARED CROSS MARK",
   "a!LOWER RIGHT DROP-SHADOWED WHITE SQUAREa!UPPER RIGHT DROP-SHADOWED WHITE SQUAREa!LOWER RIGHT SH",
   "ADOWED WHITE SQUAREa!UPPER RIGHT SHADOWED WHITE SQUAREa!BLACK QUESTION MARK ORNAMENTa!WHITE QUES",
   "TION MARK ORNAMENTa)EXCLAMATION MARK ORNAMENTa!BLACK DIAMOND MINUS WHITE Xa!HEAVY EXCLAMATION MA",
   "RK SYMBOLa!LIGHT VERTICAL BARa!MEDIUM VERTICAL BARa!HEAVY VERTICAL BARa)SINGLE TURNED COMMA QUOT",
   "ATION MARK ORNAMENTa2COMMA QUOTATION MARK ORNAMENTa)DOUBLE TURNED COMMA QUOTATION MARK ORNAMENTa",
   "2COMMA QUOTATION MARK ORNAMENTa)LOW SINGLE COMMA QUOTATION MARK ORNAMENTa.DOUBLE COMMA QUOTATION",
   " MARK ORNAMENTa!CURVED STEM PARAGRAPH SIGN ORNAMENTa!HEAVY EXCLAMATION MARK ORNAMENTa)HEART EXCL",
   "AMATION MARK ORNAMENTa)BLACK HEARTa!ROTATED HEAVY BLACK HEART BULLETa!FLORAL HEARTa!ROTATED FLOR",
   "AL HEART BULLETa!MEDIUM LEFT PARENTHESIS ORNAMENTa*RIGHT PARENTHESIS ORNAMENTa*FLATTENED LEFT PA",
   "RENTHESIS ORNAMENTa6RIGHT PARENTHESIS ORNAMENTa*LEFT-POINTING ANGLE BRACKET ORNAMENTa*RIGHT-POIN",
   "TING ANGLE BRACKET ORNAMENTa!HEAVY LEFT-POINTING ANGLE QUOTATION MARK ORNAMENTa)RIGHT-POINTING A",
   "NGLE QUOTATION MARK ORNAMENTa)LEFT-POINTING ANGLE BRACKET ORNAMENTa)RIGHT-POINTING ANGLE BRACKET",
   " ORNAMENTa!LIGHT LEFT TORTOISE SHELL BRACKET ORNAMENTa)RIGHT TORTOISE SHELL BRACKET ORNAMENTa!ME",
   "DIUM LEFT CURLY BRACKET ORNAMENTa*RIGHT CURLY BRACKET ORNAMENTa!DINGBAT NEGATIVE CIRCLED DIGIT O",
   "NEaDTWOaEHREEaDFOURaEIVEaDSIXaEEVENaDEIGHTaDNINEa>NUMBER TENa+CIRCLED SANS-SERIF DIGIT ONEaFTWOa",
   "GHREEaFFOURaGIVEaFSIXaGEVENaFEIGHTaFNINEa@NUMBER TENa+NEGATIVE CIRCLED SANS-SERIF DIGIT ONEaOTWO",
   "aPHREEaOFOURaPIVEaOSIXaPEVENaOEIGHTaONINEaINUMBER TENa!HEAVY WIDE-HEADED RIGHTWARDS ARROWa)PLUS ",
   "SIGNa)MINUS SIGNa)DIVISION SIGNa)SOUTH EAST ARROWa)RIGHTWARDS ARROWa)NORTH EAST ARROWa!DRAFTING ",
   "POINT RIGHTWARDS ARROWa!HEAVY ROUND-TIPPED RIGHTWARDS ARROWa!TRIANGLE-HEADED RIGHTWARDS ARROWa!H",
   "EAVY TRIANGLE-HEADED RIGHTWARDS ARROWa!DASHED TRIANGLE-HEADED RIGHTWARDS ARROWa!HEAVY DASHED TRI",
   "ANGLE-HEADED RIGHTWARDS ARROWa!BLACK RIGHTWARDS ARROWa!THREE-D TOP-LIGHTED RIGHTWARDS ARROWHEADa",
   "+BOTTOM-LIGHTED RIGHTWARDS ARROWHEADa!BLACK RIGHTWARDS ARROWHEADa!HEAVY BLACK CURVED DOWNWARDS A",
   "ND RIGHTWARDS ARROWa8UPWARDS AND RIGHTWARDS ARROWa!SQUAT BLACK RIGHTWARDS ARROWa!HEAVY CONCAVE-P",
   "OINTED BLACK RIGHTWARDS ARROWa!RIGHT-SHADED WHITE RIGHTWARDS ARROWa!LEFT-SHADED WHITE RIGHTWARDS",
   " ARROWa!BACK-TILTED SHADOWED WHITE RIGHTWARDS ARROWa!FRONT-TILTED SHADOWED WHITE RIGHTWARDS ARRO",
   "Wa!HEAVY LOWER RIGHT-SHADOWED WHITE RIGHTWARDS ARROWa)UPPER RIGHT-SHADOWED WHITE RIGHTWARDS ARRO",
   "Wa!NOTCHED LOWER RIGHT-SHADOWED WHITE RIGHTWARDS ARROWa!CURLY LOOPa!NOTCHED UPPER RIGHT-SHADOWED",
   " WHITE RIGHTWARDS ARROWa!CIRCLED HEAVY WHITE RIGHTWARDS ARROWa!WHITE-FEATHERED RIGHTWARDS ARROWa",
   "!BLACK-FEATHERED SOUTH EAST ARROWa5RIGHTWARDS ARROWa5NORTH EAST ARROWa!HEAVY BLACK-FEATHERED SOU",
   "TH EAST ARROWa;RIGHTWARDS ARROWa;NORTH EAST ARROWa!TEARDROP-BARBED RIGHTWARDS ARROWa!HEAVY TEARD",
   "ROP-SHANKED RIGHTWARDS ARROWa!WEDGE-TAILED RIGHTWARDS ARROWa!HEAVY WEDGE-TAILED RIGHTWARDS ARROW",
   "a!OPEN-OUTLINED RIGHTWARDS ARROWa!DOUBLE CURLY LOOPa!THREE DIMENSIONAL ANGLEa!WHITE TRIANGLE CON",
   "TAINING SMALL WHITE TRIANGLEa!PERPENDICULARa!OPEN SUBSETa*PERSETa!LEFT S-SHAPED BAG DELIMITERa!R",
   "IGHT S-SHAPED BAG DELIMITERa!OR WITH DOT INSIDEa!REVERSE SOLIDUS PRECEDING SUBSETa!SUPERSET PREC",
   "EDING SOLIDUSa!VERTICAL BAR WITH HORIZONTAL STROKEa!MATHEMATICAL RISING DIAGONALa!LONG DIVISIONa",
   "!MATHEMATICAL FALLING DIAGONALa!SQUARED LOGICAL ANDa5ORa!WHITE DIAMOND WITH CENTRED DOTa!AND WIT",
   "H DOTa!ELEMENT OF OPENING UPWARDSa!LOWER RIGHT CORNER WITH DOTa!UPPER LEFT CORNER WITH DOTa!LEFT",
   " OUTER JOINa!RIGHT OUTER JOINa!FULL OUTER JOINa!LARGE UP TACKa)DOWN TACKa#EFT AND RIGHT DOUBLE T",
   "URNSTILEa4TACKa(MULTIMAPa#ONG RIGHT TACKa(LEFT TACKa!UP TACK WITH CIRCLE ABOVEa!LOZENGE DIVIDED ",
   "BY HORIZONTAL RULEa!WHITE CONCAVE-SIDED DIAMONDa@ WITH LEFTWARDS TICKaFRIGHTWARDS TICKa)SQUARE W",
   "ITH LEFTWARDS TICKa7RIGHTWARDS TICKa!MATHEMATICAL LEFT WHITE SQUARE BRACKETa2RIGHT WHITE SQUARE ",
   "BRACKETa2LEFT ANGLE BRACKETa2RIGHT ANGLE BRACKETa2LEFT DOUBLE ANGLE BRACKETa2RIGHT DOUBLE ANGLE ",
   "BRACKETa2LEFT WHITE TORTOISE SHELL BRACKETa2RIGHT WHITE TORTOISE SHELL BRACKETa2LEFT FLATTENED P",
   "ARENTHESISa2RIGHT FLATTENED PARENTHESISa!UPWARDS QUADRUPLE ARROWa!DOWNWARDS QUADRUPLE ARROWa!ANT",
   "ICLOCKWISE GAPPED CIRCLE ARROWa!CLOCKWISE GAPPED CIRCLE ARROWa!RIGHT ARROW WITH CIRCLED PLUSa!LO",
   "NG LEFTWARDS ARROWa(RIGHTWARDS ARROWa(LEFT RIGHT ARROWa,WARDS DOUBLE ARROWa(RIGHTWARDS DOUBLE AR",
   "ROWa(LEFT RIGHT DOUBLE ARROWa,WARDS ARROW FROM BARa(RIGHTWARDS ARROW FROM BARa(LEFTWARDS DOUBLE ",
   "ARROW FROM BARa(RIGHTWARDS DOUBLE ARROW FROM BARa5SQUIGGLE ARROWa!BRAILLE PATTERN BLANKa5DOTS-1a",
   ":2a:12a:3a:13a:23a:123a:4a:14a:24a:124a:34a:134a:234a:1234a:5a:15a:25a:125a:35a:135a:235a:1235a:",
   "45a:145a:245a:1245a:345a:1345a:2345a:12345a:6a:16a:26a:126a:36a:136a:236a:1236a:46a:146a:246a:12",
   "46a:346a:1346a:2346a:12346a:56a:156a:256a:1256a:356a:1356a:2356a:12356a:456a:1456a:2456a:12456a:",
   "3456a:13456a:23456a:123456a:7a:17a:27a:127a:37a:137a:237a:1237a:47a:147a:247a:1247a:347a:1347a:2",
   "347a:12347a:57a:157a:257a:1257a:357a:1357a:2357a:12357a:457a:1457a:2457a:12457a:3457a:13457a:234",
   "57a:123457a:67a:167a:267a:1267a:367a:1367a:2367a:12367a:467a:1467a:2467a:12467a:3467a:13467a:234",
   "67a:123467a:567a:1567a:2567a:12567a:3567a:13567a:23567a:123567a:4567a:14567a:24567a:124567a:3456",
   "7a:134567a:234567a:1234567a:8a:18a:28a:128a:38a:138a:238a:1238a:48a:148a:248a:1248a:348a:1348a:2",
   "348a:12348a:58a:158a:258a:1258a:358a:1358a:2358a:12358a:458a:1458a:2458a:12458a:3458a:13458a:234",
   "58a:123458a:68a:168a:268a:1268a:368a:1368a:2368a:12368a:468a:1468a:2468a:12468a:3468a:13468a:234",
   "68a:123468a:568a:1568a:2568a:12568a:3568a:13568a:23568a:123568a:4568a:14568a:24568a:124568a:3456",
   "8a:134568a:234568a:1234568a:78a:178a:278a:1278a:378a:1378a:2378a:12378a:478a:1478a:2478a:12478a:",
   "3478a:13478a:23478a:123478a:578a:1578a:2578a:12578a:3578a:13578a:23578a:123578a:4578a:14578a:245",
   "78a:124578a:34578a:134578a:234578a:1234578a:678a:1678a:2678a:12678a:3678a:13678a:23678a:123678a:",
   "4678a:14678a:24678a:124678a:34678a:134678a:234678a:1234678a:5678a:15678a:25678a:125678a:35678a:1",
   "35678a:235678a:1235678a:45678a:145678a:245678a:1245678a:345678a:1345678a:2345678a:12345678a!RIGH",
   "TWARDS TWO-HEADED ARROW WITH VERTICAL STROKEaFDOUBLE VERTICAL STROKEa!LEFTWARDS DOUBLE ARROW WIT",
   "H VERTICAL STROKEa!RIGHTWARDS DOUBLE ARROW WITH VERTICAL STROKEa!LEFT RIGHT DOUBLE ARROW WITH VE",
   "RTICAL STROKEa!RIGHTWARDS TWO-HEADED ARROW FROM BARa!LEFTWARDS DOUBLE ARROW FROM BARa!RIGHTWARDS",
   " DOUBLE ARROW FROM BARa!DOWNWARDS ARROW WITH HORIZONTAL STROKEa!UPWARDS ARROW WITH HORIZONTAL ST",
   "ROKEa+TRIPLE ARROWa!DOWNWARDS TRIPLE ARROWa!LEFTWARDS DOUBLE DASH ARROWa!RIGHTWARDS DOUBLE DASH ",
   "ARROWa!LEFTWARDS TRIPLE DASH ARROWa!RIGHTWARDS TRIPLE DASH ARROWa1WO-HEADED TRIPLE DASH ARROWa0A",
   "RROW WITH DOTTED STEMa!UPWARDS ARROW TO BARa!DOWNWARDS ARROW TO BARa!RIGHTWARDS ARROW WITH TAIL ",
   "WITH VERTICAL STROKEaEDOUBLE VERTICAL STROKEa0TWO-HEADED ARROW WITH TAILaJ WITH VERTICAL STROKEa",
   "PDOUBLE VERTICAL STROKEa!LEFTWARDS ARROW-TAILa!RIGHTWARDS ARROW-TAILa!LEFTWARDS DOUBLE ARROW-TAI",
   "La!RIGHTWARDS DOUBLE ARROW-TAILa!LEFTWARDS ARROW TO BLACK DIAMONDa!RIGHTWARDS ARROW TO BLACK DIA",
   "MONDa!LEFTWARDS ARROW FROM BAR TO BLACK DIAMONDa!RIGHTWARDS ARROW FROM BAR TO BLACK DIAMONDa!NOR",
   "TH WEST AND SOUTH EAST ARROWa)EAST AND SOUTH WEST ARROWa)WEST ARROW WITH HOOKa)EAST ARROW WITH H",
   "OOKa!SOUTH EAST ARROW WITH HOOKa)WEST ARROW WITH HOOKa!NORTH WEST ARROW AND NORTH EAST ARROWa)EA",
   "ST ARROW AND SOUTH EAST ARROWa!SOUTH EAST ARROW AND SOUTH WEST ARROWa)WEST ARROW AND NORTH WEST ",
   "ARROWa!RISING DIAGONAL CROSSING FALLING DIAGONALa!FALLING DIAGONAL CROSSING RISING DIAGONALa!SOU",
   "TH EAST ARROW CROSSING NORTH EAST ARROWa!NORTH EAST ARROW CROSSING SOUTH EAST ARROWa!FALLING DIA",
   "GONAL CROSSING NORTH EAST ARROWa!RISING DIAGONAL CROSSING SOUTH EAST ARROWa!NORTH EAST ARROW CRO",
   "SSING NORTH WEST ARROWa)WEST ARROW CROSSING NORTH EAST ARROWa!WAVE ARROW POINTING DIRECTLY RIGHT",
   "a!ARROW POINTING RIGHTWARDS THEN CURVING UPWARDSaLDOWNWARDSa4DOWNWARDS THEN CURVING LEFTWARDSaKR",
   "IGHTWARDSa!RIGHT-SIDE ARC CLOCKWISE ARROWa!LEFT-SIDE ARC ANTICLOCKWISE ARROWa!TOP ARC ANTICLOCKW",
   "ISE ARROWa!BOTTOM ARC ANTICLOCKWISE ARROWa!TOP ARC CLOCKWISE ARROW WITH MINUSa+ANTICLOCKWISE ARR",
   "OW WITH PLUSa!LOWER RIGHT SEMICIRCULAR CLOCKWISE ARROWa)LEFT SEMICIRCULAR ANTICLOCKWISE ARROWa!A",
   "NTICLOCKWISE CLOSED CIRCLE ARROWa!CLOCKWISE CLOSED CIRCLE ARROWa!RIGHTWARDS ARROW ABOVE SHORT LE",
   "FTWARDS ARROWa!LEFTWARDS ARROW ABOVE SHORT RIGHTWARDS ARROWa!SHORT RIGHTWARDS ARROW ABOVE LEFTWA",
   "RDS ARROWa!RIGHTWARDS ARROW WITH PLUS BELOWa!LEFTWARDS ARROW WITH PLUS BELOWa!RIGHTWARDS ARROW T",
   "HROUGH Xa!LEFT RIGHT ARROW THROUGH SMALL CIRCLEa!UPWARDS TWO-HEADED ARROW FROM SMALL CIRCLEa!LEF",
   "T BARB UP RIGHT BARB DOWN HARPOONa.DOWN RIGHT BARB UP HARPOONa!UP BARB RIGHT DOWN BARB LEFT HARP",
   "OONa+LEFT DOWN BARB RIGHT HARPOONa!LEFT BARB UP RIGHT BARB UP HARPOONa!UP BARB RIGHT DOWN BARB R",
   "IGHT HARPOONa!LEFT BARB DOWN RIGHT BARB DOWN HARPOONa!UP BARB LEFT DOWN BARB LEFT HARPOONa!LEFTW",
   "ARDS HARPOON WITH BARB UP TO BARa!RIGHTWARDS HARPOON WITH BARB UP TO BARa!UPWARDS HARPOON WITH B",
   "ARB RIGHT TO BARa!DOWNWARDS HARPOON WITH BARB RIGHT TO BARa!LEFTWARDS HARPOON WITH BARB DOWN TO ",
   "BARa!RIGHTWARDS HARPOON WITH BARB DOWN TO BARa!UPWARDS HARPOON WITH BARB LEFT TO BARa!DOWNWARDS ",
   "HARPOON WITH BARB LEFT TO BARa!LEFTWARDS HARPOON WITH BARB UP FROM BARa!RIGHTWARDS HARPOON WITH ",
   "BARB UP FROM BARa!UPWARDS HARPOON WITH BARB RIGHT FROM BARa!DOWNWARDS HARPOON WITH BARB RIGHT FR",
   "OM BARa!LEFTWARDS HARPOON WITH BARB DOWN FROM BARa!RIGHTWARDS HARPOON WITH BARB DOWN FROM BARa!U",
   "PWARDS HARPOON WITH BARB LEFT FROM BARa!DOWNWARDS HARPOON WITH BARB LEFT FROM BARa!LEFTWARDS HAR",
   "POON WITH BARB UP ABOVE LEFTWARDS HARPOON WITH BARB DOWNa!UPWARDS HARPOON WITH BARB LEFT BESIDE ",
   "UPWARDS HARPOON WITH BARB RIGHTa!RIGHTWARDS HARPOON WITH BARB UP ABOVE RIGHTWARDS HARPOON WITH B",
   "ARB DOWNa!DOWNWARDS HARPOON WITH BARB LEFT BESIDE DOWNWARDS HARPOON WITH BARB RIGHTa!LEFTWARDS H",
   "ARPOON WITH BARB UP ABOVE RIGHTWARDS HARPOON WITH BARB UPaADOWN ABOVE RIGHTWARDS HARPOON WITH BA",
   "RB DOWNa!RIGHTWARDS HARPOON WITH BARB UP ABOVE LEFTWARDS HARPOON WITH BARB UPaBDOWN ABOVE LEFTWA",
   "RDS HARPOON WITH BARB DOWNa!LEFTWARDS HARPOON WITH BARB UP ABOVE LONG DASHaADOWN BELOW LONG DASH",
   "a!RIGHTWARDS HARPOON WITH BARB UP ABOVE LONG DASHaBDOWN BELOW LONG DASHa!UPWARDS HARPOON WITH BA",
   "RB LEFT BESIDE DOWNWARDS HARPOON WITH BARB RIGHTa!DOWNWARDS HARPOON WITH BARB LEFT BESIDE UPWARD",
   "S HARPOON WITH BARB RIGHTa!RIGHT DOUBLE ARROW WITH ROUNDED HEADa!EQUALS SIGN ABOVE RIGHTWARDS AR",
   "ROWa!TILDE OPERATOR ABOVE RIGHTWARDS ARROWa!LEFTWARDS ARROW ABOVE TILDE OPERATORa!RIGHTWARDS ARR",
   "OW ABOVE TILDE OPERATORa<ALMOST EQUAL TOa!LESS-THAN ABOVE LEFTWARDS ARROWa$FTWARDS ARROW THROUGH",
   " LESS-THANa!GREATER-THAN ABOVE RIGHTWARDS ARROWa!SUBSET ABOVE RIGHTWARDS ARROWa!LEFTWARDS ARROW ",
   "THROUGH SUBSETa!SUPERSET ABOVE LEFTWARDS ARROWa!LEFT FISH TAILa!RIGHT FISH TAILa!UP FISH TAILa!D",
   "OWN FISH TAILa!TRIPLE VERTICAL BAR DELIMITERa!Z NOTATION SPOTa0TYPE COLONa!LEFT WHITE CURLY BRAC",
   "KETa!RIGHT WHITE CURLY BRACKETa!LEFT WHITE PARENTHESISa!RIGHT WHITE PARENTHESISa!Z NOTATION LEFT",
   " IMAGE BRACKETa0RIGHT IMAGE BRACKETa0LEFT BINDING BRACKETa0RIGHT BINDING BRACKETa!LEFT SQUARE BR",
   "ACKET WITH UNDERBARa!RIGHT SQUARE BRACKET WITH UNDERBARa!LEFT SQUARE BRACKET WITH TICK IN TOP CO",
   "RNERa!RIGHT SQUARE BRACKET WITH TICK IN BOTTOM CORNERa!LEFT SQUARE BRACKET WITH TICK IN BOTTOM C",
   "ORNERa!RIGHT SQUARE BRACKET WITH TICK IN TOP CORNERa!LEFT ANGLE BRACKET WITH DOTa!RIGHT ANGLE BR",
   "ACKET WITH DOTa!LEFT ARC LESS-THAN BRACKETa!RIGHT ARC GREATER-THAN BRACKETa!DOUBLE LEFT ARC GREA",
   "TER-THAN BRACKETa*RIGHT ARC LESS-THAN BRACKETa!LEFT BLACK TORTOISE SHELL BRACKETa!RIGHT BLACK TO",
   "RTOISE SHELL BRACKETa!DOTTED FENCEa!VERTICAL ZIGZAG LINEa!MEASURED ANGLE OPENING LEFTa!RIGHT ANG",
   "LE VARIANT WITH SQUAREa!MEASURED RIGHT ANGLE WITH DOTa!ANGLE WITH S INSIDEa#CUTE ANGLEa!SPHERICA",
   "L ANGLE OPENING LEFTa=UPa!TURNED ANGLEa!REVERSED ANGLEa!ANGLE WITH UNDERBARa!REVERSED ANGLE WITH",
   " UNDERBARa!OBLIQUE ANGLE OPENING UPa;DOWNa!MEASURED ANGLE WITH OPEN ARM ENDING IN ARROW POINTING",
   " UP AND RIGHTadLEFTa[DOWN AND RIGHTafLEFTa[RIGHT AND UPa[LEFT AND UPa[RIGHT AND DOWNa[LEFT AND D",
   "OWNa!REVERSED EMPTY SETa!EMPTY SET WITH OVERBARa4SMALL CIRCLE ABOVEa4RIGHT ARROW ABOVEa4LEFT ARR",
   "OW ABOVEa!CIRCLE WITH HORIZONTAL BARa)D VERTICAL BARa+PARALLELa+REVERSE SOLIDUSa+PERPENDICULARa)",
   " DIVIDED BY HORIZONTAL BAR AND TOP HALF DIVIDED BY VERTICAL BARa*WITH SUPERIMPOSED Xa)D ANTICLOC",
   "KWISE-ROTATED DIVISION SIGNa!UP ARROW THROUGH CIRCLEa!CIRCLED WHITE BULLETa+BULLETa+LESS-THANa+G",
   "REATER-THANa) WITH SMALL CIRCLE TO THE RIGHTa1TWO HORIZONTAL STROKES TO THE RIGHTa!SQUARED RISIN",
   "G DIAGONAL SLASHa+FALLING DIAGONAL SLASHa+ASTERISKa+SMALL CIRCLEa,QUAREa!TWO JOINED SQUARESa#RIA",
   "NGLE WITH DOT ABOVEa3UNDERBARa!S IN TRIANGLEa!TRIANGLE WITH SERIFS AT BOTTOMa!RIGHT TRIANGLE ABO",
   "VE LEFT TRIANGLEa!LEFT TRIANGLE BESIDE VERTICAL BARa!VERTICAL BAR BESIDE RIGHT TRIANGLEa!BOWTIE ",
   "WITH LEFT HALF BLACKa1RIGHT HALF BLACKa#LACK BOWTIEa!TIMES WITH LEFT HALF BLACKa0RIGHT HALF BLAC",
   "Ka!WHITE HOURGLASSa!BLACK HOURGLASSa!LEFT WIGGLY FENCEa!RIGHT WIGGLY FENCEa!LEFT DOUBLE WIGGLY F",
   "ENCEa!RIGHT DOUBLE WIGGLY FENCEa!INCOMPLETE INFINITYa!TIE OVER INFINITYa!INFINITY NEGATED WITH V",
   "ERTICAL BARa!DOUBLE-ENDED MULTIMAPa!SQUARE WITH CONTOURED OUTLINEa!INCREASES ASa!SHUFFLE PRODUCT",
   "a!EQUALS SIGN AND SLANTED PARALLELaE WITH TILDE ABOVEa!IDENTICAL TO AND SLANTED PARALLELa!GLEICH",
   " STARKa!THERMODYNAMICa!DOWN-POINTING TRIANGLE WITH LEFT HALF BLACKaARIGHT HALF BLACKa!BLACK DIAM",
   "OND WITH DOWN ARROWa)LOZENGEa!WHITE CIRCLE WITH DOWN ARROWa!BLACK CIRCLE WITH DOWN ARROWa!ERROR-",
   "BARRED WHITE SQUAREa2BLACK SQUAREa2WHITE DIAMONDa2BLACK DIAMONDa2WHITE CIRCLEa2BLACK CIRCLEa!RUL",
   "E-DELAYEDa#EVERSE SOLIDUS OPERATORa!SOLIDUS WITH OVERBARa!REVERSE SOLIDUS WITH HORIZONTAL STROKE",
   "a!BIG SOLIDUSa&REVERSE SOLIDUSa!DOUBLE PLUSa!TRIPLE PLUSa!LEFT-POINTING CURVED ANGLE BRACKETa!RI",
   "GHT-POINTING CURVED ANGLE BRACKETa!TINYa!MINYa!N-ARY CIRCLED DOT OPERATORa3PLUS OPERATORa3TIMES ",
   "OPERATORa)UNION OPERATOR WITH DOTa?PLUSa)SQUARE INTERSECTION OPERATORa2UNION OPERATORa!TWO LOGIC",
   "AL AND OPERATORa1OR OPERATORa!N-ARY TIMES OPERATORa!MODULO TWO SUMa!SUMMATION WITH INTEGRALa!QUA",
   "DRUPLE INTEGRAL OPERATORa!FINITE PART INTEGRALa!INTEGRAL WITH DOUBLE STROKEa,AVERAGE WITH SLASHa",
   "!CIRCULATION FUNCTIONa!ANTICLOCKWISE INTEGRATIONa!LINE INTEGRATION WITH RECTANGULAR PATH AROUND ",
   "POLEa;SEMICIRCULAR PATH AROUND POLEa6NOT INCLUDING THE POLEa!INTEGRAL AROUND A POINT OPERATORa!Q",
   "UATERNION INTEGRAL OPERATORa!INTEGRAL WITH LEFTWARDS ARROW WITH HOOKa3TIMES SIGNa3INTERSECTIONa3",
   "UNIONa3OVERBARa3UNDERBARa!JOINa!LARGE LEFT TRIANGLE OPERATORa!Z NOTATION SCHEMA COMPOSITIONa7PIP",
   "INGa8ROJECTIONa!PLUS SIGN WITH SMALL CIRCLE ABOVEa4CIRCUMFLEX ACCENT ABOVEa4TILDE ABOVEa4DOT BEL",
   "OWa4TILDE BELOWa4SUBSCRIPT TWOa4BLACK TRIANGLEa!MINUS SIGN WITH COMMA ABOVEa5DOT BELOWa5FALLING ",
   "DOTSa5RISING DOTSa!PLUS SIGN IN LEFT HALF CIRCLEa2RIGHT HALF CIRCLEa!VECTOR OR CROSS PRODUCTa!MU",
   "LTIPLICATION SIGN WITH DOT ABOVEa>UNDERBARa!SEMIDIRECT PRODUCT WITH BOTTOM CLOSEDa#MASH PRODUCTa",
   "!MULTIPLICATION SIGN IN LEFT HALF CIRCLEa<RIGHT HALF CIRCLEa!CIRCLED MULTIPLICATION SIGN WITH CI",
   "RCUMFLEX ACCENTa!MULTIPLICATION SIGN IN DOUBLE CIRCLEa!CIRCLED DIVISION SIGNa!PLUS SIGN IN TRIAN",
   "GLEa!MINUS SIGN IN TRIANGLEa#ULTIPLICATION SIGN IN TRIANGLEa!INTERIOR PRODUCTa!RIGHTHAND INTERIO",
   "R PRODUCTa!Z NOTATION RELATIONAL COMPOSITIONa!AMALGAMATION OR COPRODUCTa!INTERSECTION WITH DOTa!",
   "UNION WITH MINUS SIGNa0OVERBARa!INTERSECTION WITH OVERBARa7LOGICAL ANDa!UNION WITH LOGICAL ORa)A",
   "BOVE INTERSECTIONa!INTERSECTION ABOVE UNIONa!UNION ABOVE BAR ABOVE INTERSECTIONa!INTERSECTION AB",
   "OVE BAR ABOVE UNIONa!UNION BESIDE AND JOINED WITH UNIONa!INTERSECTION BESIDE AND JOINED WITH INT",
   "ERSECTIONa!CLOSED UNION WITH SERIFSa*INTERSECTION WITH SERIFSa!DOUBLE SQUARE INTERSECTIONa3UNION",
   "a!CLOSED UNION WITH SERIFS AND SMASH PRODUCTa!LOGICAL AND WITH DOT ABOVEa+OR WITH DOT ABOVEa!DOU",
   "BLE LOGICAL ANDa4ORa!TWO INTERSECTING LOGICAL ANDa>ORa!SLOPING LARGE ORa3ANDa!LOGICAL OR OVERLAP",
   "PING LOGICAL ANDa+AND WITH MIDDLE STEMa+OR WITH MIDDLE STEMa+AND WITH HORIZONTAL DASHa+OR WITH H",
   "ORIZONTAL DASHa+AND WITH DOUBLE OVERBARa6UNDERBARa6DOUBLE UNDERBARa!SMALL VEE WITH UNDERBARa!LOG",
   "ICAL OR WITH DOUBLE OVERBARa<UNDERBARa!Z NOTATION DOMAIN ANTIRESTRICTIONa0RANGE ANTIRESTRICTIONa",
   "!EQUALS SIGN WITH DOT BELOWa!IDENTICAL WITH DOT ABOVEa!TRIPLE HORIZONTAL BAR WITH DOUBLE VERTICA",
   "L STROKEa@TRIPLE VERTICAL STROKEa#ILDE OPERATOR WITH DOT ABOVEa9RISING DOTSa!SIMILAR MINUS SIMIL",
   "ARa!CONGRUENT WITH DOT ABOVEa!EQUALS WITH ASTERISKa!ALMOST EQUAL TO WITH CIRCUMFLEX ACCENTa#PPRO",
   "XIMATELY EQUAL OR EQUAL TOa!EQUALS SIGN ABOVE PLUS SIGNa!PLUS SIGN ABOVE EQUALS SIGNa!EQUALS SIG",
   "N ABOVE TILDE OPERATORa!DOUBLE COLON EQUALa!TWO CONSECUTIVE EQUALS SIGNSa#HREE CONSECUTIVE EQUAL",
   "S SIGNSa!EQUALS SIGN WITH TWO DOTS ABOVE AND TWO DOTS BELOWa%IVALENT WITH FOUR DOTS ABOVEa!LESS-",
   "THAN WITH CIRCLE INSIDEa!GREATER-THAN WITH CIRCLE INSIDEa!LESS-THAN WITH QUESTION MARK ABOVEa!GR",
   "EATER-THAN WITH QUESTION MARK ABOVEa!LESS-THAN OR SLANTED EQUAL TOa!GREATER-THAN OR SLANTED EQUA",
   "L TOa!LESS-THAN OR SLANTED EQUAL TO WITH DOT INSIDEa!GREATER-THAN OR SLANTED EQUAL TO WITH DOT I",
   "NSIDEa!LESS-THAN OR SLANTED EQUAL TO WITH DOT ABOVEa!GREATER-THAN OR SLANTED EQUAL TO WITH DOT A",
   "BOVEa!LESS-THAN OR SLANTED EQUAL TO WITH DOT ABOVE RIGHTa!GREATER-THAN OR SLANTED EQUAL TO WITH ",
   "DOT ABOVE LEFTa!LESS-THAN OR APPROXIMATEa!GREATER-THAN OR APPROXIMATEa!LESS-THAN AND SINGLE-LINE",
   " NOT EQUAL TOa!GREATER-THAN AND SINGLE-LINE NOT EQUAL TOa!LESS-THAN AND NOT APPROXIMATEa!GREATER",
   "-THAN AND NOT APPROXIMATEa!LESS-THAN ABOVE DOUBLE-LINE EQUAL ABOVE GREATER-THANa!GREATER-THAN AB",
   "OVE DOUBLE-LINE EQUAL ABOVE LESS-THANa!LESS-THAN ABOVE SIMILAR OR EQUALa!GREATER-THAN ABOVE SIMI",
   "LAR OR EQUALa!LESS-THAN ABOVE SIMILAR ABOVE GREATER-THANa!GREATER-THAN ABOVE SIMILAR ABOVE LESS-",
   "THANa!LESS-THAN ABOVE GREATER-THAN ABOVE DOUBLE-LINE EQUALa!GREATER-THAN ABOVE LESS-THAN ABOVE D",
   "OUBLE-LINE EQUALa!LESS-THAN ABOVE SLANTED EQUAL ABOVE GREATER-THAN ABOVE SLANTED EQUALa!GREATER-",
   "THAN ABOVE SLANTED EQUAL ABOVE LESS-THAN ABOVE SLANTED EQUALa!SLANTED EQUAL TO OR LESS-THANa9GRE",
   "ATER-THANa9LESS-THAN WITH DOT INSIDEa9GREATER-THAN WITH DOT INSIDEa!DOUBLE-LINE EQUAL TO OR LESS",
   "-THANa=GREATER-THANa1SLANTED EQUAL TO OR LESS-THANaEGREATER-THANa!SIMILAR OR LESS-THANa0GREATER-",
   "THANa+ABOVE LESS-THAN ABOVE EQUALS SIGNa3GREATER-THAN ABOVE EQUALS SIGNa!DOUBLE NESTED LESS-THAN",
   "a3GREATER-THANa3LESS-THAN WITH UNDERBARa!GREATER-THAN OVERLAPPING LESS-THANa2BESIDE LESS-THANa!L",
   "ESS-THAN CLOSED BY CURVEa!GREATER-THAN CLOSED BY CURVEa!LESS-THAN CLOSED BY CURVE ABOVE SLANTED ",
   "EQUALa!GREATER-THAN CLOSED BY CURVE ABOVE SLANTED EQUALa!SMALLER THANa!LARGER THANa!SMALLER THAN",
   " OR EQUAL TOa!LARGER THAN OR EQUAL TOa!EQUALS SIGN WITH BUMPY ABOVEa!PRECEDES ABOVE SINGLE-LINE ",
   "EQUALS SIGNa!SUCCEEDS ABOVE SINGLE-LINE EQUALS SIGNa!PRECEDES ABOVE SINGLE-LINE NOT EQUAL TOa!SU",
   "CCEEDS ABOVE SINGLE-LINE NOT EQUAL TOa!PRECEDES ABOVE EQUALS SIGNa!SUCCEEDS ABOVE EQUALS SIGNa!P",
   "RECEDES ABOVE NOT EQUAL TOa!SUCCEEDS ABOVE NOT EQUAL TOa!PRECEDES ABOVE ALMOST EQUAL TOa!SUCCEED",
   "S ABOVE ALMOST EQUAL TOa!PRECEDES ABOVE NOT ALMOST EQUAL TOa!SUCCEEDS ABOVE NOT ALMOST EQUAL TOa",
   "!DOUBLE PRECEDESa*SUCCEEDSa!SUBSET WITH DOTa$PERSET WITH DOTa$BSET WITH PLUS SIGN BELOWa$PERSET ",
   "WITH PLUS SIGN BELOWa$BSET WITH MULTIPLICATION SIGN BELOWa$PERSET WITH MULTIPLICATION SIGN BELOW",
   "a$BSET OF OR EQUAL TO WITH DOT ABOVEa$PERSET OF OR EQUAL TO WITH DOT ABOVEa$BSET OF ABOVE EQUALS",
   " SIGNa$PERSET OF ABOVE EQUALS SIGNa$BSET OF ABOVE TILDE OPERATORa$PERSET OF ABOVE TILDE OPERATOR",
   "a$BSET OF ABOVE ALMOST EQUAL TOa$PERSET OF ABOVE ALMOST EQUAL TOa$BSET OF ABOVE NOT EQUAL TOa$PE",
   "RSET OF ABOVE NOT EQUAL TOa#QUARE LEFT OPEN BOX OPERATORa*RIGHT OPEN BOX OPERATORa!CLOSED SUBSET",
   "a,PERSETa,BSET OR EQUAL TOa,PERSET OR EQUAL TOa!SUBSET ABOVE SUPERSETa$PERSET ABOVE SUBSETa$BSET",
   " ABOVE SUBSETa$PERSET ABOVE SUPERSETa,BESIDE SUBSETa5AND JOINED BY DASH WITH SUBSETa!ELEMENT OF ",
   "OPENING DOWNWARDSa!PITCHFORK WITH TEE TOPa!TRANSVERSAL INTERSECTIONa!FORKINGa!NONFORKINGa!SHORT ",
   "LEFT TACKa)DOWN TACKa)UP TACKa!PERPENDICULAR WITH Sa!VERTICAL BAR TRIPLE RIGHT TURNSTILEa!DOUBLE",
   " VERTICAL BAR LEFT TURNSTILEa!VERTICAL BAR DOUBLE LEFT TURNSTILEa!DOUBLE VERTICAL BAR DOUBLE LEF",
   "T TURNSTILEa!LONG DASH FROM LEFT MEMBER OF DOUBLE VERTICALa!SHORT DOWN TACK WITH OVERBARa)UP TAC",
   "K WITH UNDERBARa3ABOVE SHORT DOWN TACKa!DOUBLE DOWN TACKa*UP TACKa*STROKE NOT SIGNa!REVERSED DOU",
   "BLE STROKE NOT SIGNa!DOES NOT DIVIDE WITH REVERSED NEGATION SLASHa!VERTICAL LINE WITH CIRCLE ABO",
   "VEa?BELOWa!DOWN TACK WITH CIRCLE BELOWa!PARALLEL WITH HORIZONTAL STROKEa3TILDE OPERATORa!TRIPLE ",
   "VERTICAL BAR BINARY RELATIONa9WITH HORIZONTAL STROKEa*COLON OPERATORa*NESTED LESS-THANa3GREATER-",
   "THANa!DOUBLE-LINE SLANTED LESS-THAN OR EQUAL TOa9GREATER-THAN OR EQUAL TOa!TRIPLE SOLIDUS BINARY",
   " RELATIONa!LARGE TRIPLE VERTICAL BAR OPERATORa!DOUBLE SOLIDUS OPERATORa!WHITE VERTICAL BARa!N-AR",
   "Y WHITE VERTICAL BARa#ORTH EAST WHITE ARROWa)WEST WHITE ARROWa!SOUTH EAST WHITE ARROWa)WEST WHIT",
   "E ARROWa!LEFT RIGHT WHITE ARROWa&WARDS BLACK ARROWa!UPWARDS BLACK ARROWa!DOWNWARDS BLACK ARROWa!",
   "NORTH EAST BLACK ARROWa)WEST BLACK ARROWa!SOUTH EAST BLACK ARROWa)WEST BLACK ARROWa!LEFT RIGHT B",
   "LACK ARROWa!UP DOWN BLACK ARROWa!RIGHTWARDS ARROW WITH TIP DOWNWARDSa?UPWARDSa!LEFTWARDS ARROW W",
   "ITH TIP DOWNWARDSa>UPWARDSa!SQUARE WITH TOP HALF BLACKa1BOTTOM HALF BLACKa1UPPER RIGHT DIAGONAL ",
   "HALF BLACKa1LOWER LEFT DIAGONAL HALF BLACKa!DIAMOND WITH LEFT HALF BLACKa2RIGHT HALF BLACKa2TOP ",
   "HALF BLACKa2BOTTOM HALF BLACKa#OTTED SQUAREa!BLACK LARGE SQUAREa!WHITE LARGE SQUAREa!BLACK VERY ",
   "SMALL SQUAREa!WHITE VERY SMALL SQUAREa!BLACK PENTAGONa!WHITE PENTAGONa)HEXAGONa!BLACK HEXAGONa!H",
   "ORIZONTAL BLACK HEXAGONa!BLACK LARGE CIRCLEa)MEDIUM DIAMONDa!WHITE MEDIUM DIAMONDa!BLACK MEDIUM ",
   "LOZENGEa!WHITE MEDIUM LOZENGEa!BLACK SMALL DIAMONDa1LOZENGEa!WHITE SMALL LOZENGEa!BLACK HORIZONT",
   "AL ELLIPSEa!WHITE HORIZONTAL ELLIPSEa!BLACK VERTICAL ELLIPSEa!WHITE VERTICAL ELLIPSEa!LEFT ARROW",
   " WITH SMALL CIRCLEa!THREE LEFTWARDS ARROWSa!LEFT ARROW WITH CIRCLED PLUSa#ONG LEFTWARDS SQUIGGLE",
   " ARROWa#EFTWARDS TWO-HEADED ARROW WITH VERTICAL STROKEaEDOUBLE VERTICAL STROKEa@FROM BARa:TRIPLE",
   " DASH ARROWa.ARROW WITH DOTTED STEMa:TAIL WITH VERTICAL STROKEaDDOUBLE VERTICAL STROKEa.TWO-HEAD",
   "ED ARROW WITH TAILaI WITH VERTICAL STROKEaODOUBLE VERTICAL STROKEa.ARROW THROUGH Xa!WAVE ARROW P",
   "OINTING DIRECTLY LEFTa!EQUALS SIGN ABOVE LEFTWARDS ARROWa!REVERSE TILDE OPERATOR ABOVE LEFTWARDS",
   " ARROWa!LEFTWARDS ARROW ABOVE REVERSE ALMOST EQUAL TOa!RIGHTWARDS ARROW THROUGH GREATER-THANa>SU",
   "PERSETa!LEFTWARDS QUADRUPLE ARROWa!RIGHTWARDS QUADRUPLE ARROWa#EVERSE TILDE OPERATOR ABOVE RIGHT",
   "WARDS ARROWa#IGHTWARDS ARROW ABOVE REVERSE ALMOST EQUAL TOa!TILDE OPERATOR ABOVE LEFTWARDS ARROW",
   "a!LEFTWARDS ARROW ABOVE ALMOST EQUAL TOa;REVERSE TILDE OPERATORa!RIGHTWARDS ARROW ABOVE REVERSE ",
   "TILDE OPERATORa!DOWNWARDS TRIANGLE-HEADED ZIGZAG ARROWa!SHORT SLANTED NORTH ARROWa)BACKSLANTED S",
   "OUTH ARROWa!WHITE MEDIUM STARa!BLACK SMALL STARa!WHITE SMALL STARa!BLACK RIGHT-POINTING PENTAGON",
   "a!WHITE RIGHT-POINTING PENTAGONa!HEAVY LARGE CIRCLEa)OVAL WITH OVAL INSIDEa)CIRCLE WITH CIRCLE I",
   "NSIDEa0Ea1D SALTIREa!SLANTED NORTH ARROW WITH HOOKED HEADa!BACKSLANTED SOUTH ARROW WITH HOOKED T",
   "AILa!SLANTED NORTH ARROW WITH HORIZONTAL TAILa!BACKSLANTED SOUTH ARROW WITH HORIZONTAL TAILa#ENT",
   " ARROW POINTING DOWNWARDS THEN NORTH EASTa!SHORT BENT ARROW POINTING DOWNWARDS THEN NORTH EASTa!",
   "LEFTWARDS TRIANGLE-HEADED ARROWa!UPWARDS TRIANGLE-HEADED ARROWa!RIGHTWARDS TRIANGLE-HEADED ARROW",
   "a!DOWNWARDS TRIANGLE-HEADED ARROWa!LEFT RIGHT TRIANGLE-HEADED ARROWa!UP DOWN TRIANGLE-HEADED ARR",
   "OWa!NORTH WEST TRIANGLE-HEADED ARROWa)EAST TRIANGLE-HEADED ARROWa!SOUTH EAST TRIANGLE-HEADED ARR",
   "OWa)WEST TRIANGLE-HEADED ARROWa!LEFTWARDS TRIANGLE-HEADED DASHED ARROWa!UPWARDS TRIANGLE-HEADED ",
   "DASHED ARROWa!RIGHTWARDS TRIANGLE-HEADED DASHED ARROWa!DOWNWARDS TRIANGLE-HEADED DASHED ARROWa!C",
   "LOCKWISE TRIANGLE-HEADED OPEN CIRCLE ARROWa!ANTICLOCKWISE TRIANGLE-HEADED OPEN CIRCLE ARROWa!LEF",
   "TWARDS TRIANGLE-HEADED ARROW TO BARa!UPWARDS TRIANGLE-HEADED ARROW TO BARa!RIGHTWARDS TRIANGLE-H",
   "EADED ARROW TO BARa!DOWNWARDS TRIANGLE-HEADED ARROW TO BARc!NORTH WEST TRIANGLE-HEADED ARROW TO ",
   "BARa)EAST TRIANGLE-HEADED ARROW TO BARa!SOUTH EAST TRIANGLE-HEADED ARROW TO BARa)WEST TRIANGLE-H",
   "EADED ARROW TO BARa!LEFTWARDS TRIANGLE-HEADED ARROW WITH DOUBLE HORIZONTAL STROKE!0!QVERTICAL ST",
   "ROKEa!UPWARDS TRIANGLE-HEADED ARROW WITH DOUBLE HORIZONTAL STROKEa!RIGHTWARDS TRIANGLE-HEADED AR",
   "ROW WITH DOUBLE HORIZONTAL STROKE!0!RVERTICAL STROKEa!DOWNWARDS TRIANGLE-HEADED ARROW WITH DOUBL",
   "E HORIZONTAL STROKEa!HORIZONTAL TAB KEYa!VERTICAL TAB KEYa!LEFTWARDS TRIANGLE-HEADED ARROW OVER ",
   "RIGHTWARDS TRIANGLE-HEADED ARROWa!UPWARDS TRIANGLE-HEADED ARROW LEFTWARDS OF DOWNWARDS TRIANGLE-",
   "HEADED ARROWa!RIGHTWARDS TRIANGLE-HEADED ARROW OVER LEFTWARDS TRIANGLE-HEADED ARROWa!DOWNWARDS T",
   "RIANGLE-HEADED ARROW LEFTWARDS OF UPWARDS TRIANGLE-HEADED ARROWa!LEFTWARDS TRIANGLE-HEADED PAIRE",
   "D ARROWSa!UPWARDS TRIANGLE-HEADED PAIRED ARROWSa!RIGHTWARDS TRIANGLE-HEADED PAIRED ARROWSa!DOWNW",
   "ARDS TRIANGLE-HEADED PAIRED ARROWSa!LEFTWARDS BLACK CIRCLED WHITE ARROWa!UPWARDS BLACK CIRCLED W",
   "HITE ARROWa!RIGHTWARDS BLACK CIRCLED WHITE ARROWa!DOWNWARDS BLACK CIRCLED WHITE ARROWa!ANTICLOCK",
   "WISE TRIANGLE-HEADED RIGHT U-SHAPED ARROWaCBOTTOM U-SHAPED ARROWaCLEFT U-SHAPED ARROWaCTOP U-SHA",
   "PED ARROWa!RETURN LEFTa*RIGHTa!NEWLINE LEFTa+RIGHTa!FOUR CORNER ARROWS CIRCLING ANTICLOCKWISEa!R",
   "IGHTWARDS BLACK ARROWb!SYMBOL FOR TYPE A ELECTRONICSa!THREE-D TOP-LIGHTED LEFTWARDS EQUILATERAL ",
   "ARROWHEADa+RIGHT-LIGHTED UPWARDS EQUILATERAL ARROWHEADa+TOP-LIGHTED RIGHTWARDS EQUILATERAL ARROW",
   "HEADa+LEFT-LIGHTED DOWNWARDS EQUILATERAL ARROWHEADa!BLACK LEFTWARDS EQUILATERAL ARROWHEADa)UPWAR",
   "DS EQUILATERAL ARROWHEADa)RIGHTWARDS EQUILATERAL ARROWHEADa)DOWNWARDS EQUILATERAL ARROWHEADa!DOW",
   "NWARDS TRIANGLE-HEADED ARROW WITH LONG TIP LEFTWARDSaSRIGHTWARDSa!UPWARDS TRIANGLE-HEADED ARROW ",
   "WITH LONG TIP LEFTWARDSaQRIGHTWARDSa!LEFTWARDS TRIANGLE-HEADED ARROW WITH LONG TIP UPWARDSa!RIGH",
   "TWARDS TRIANGLE-HEADED ARROW WITH LONG TIP UPWARDSa!LEFTWARDS TRIANGLE-HEADED ARROW WITH LONG TI",
   "P DOWNWARDSa!RIGHTWARDS TRIANGLE-HEADED ARROW WITH LONG TIP DOWNWARDSa!BLACK CURVED DOWNWARDS AN",
   "D LEFTWARDS ARROWa@RIGHTWARDS ARROWa2UPWARDS AND LEFTWARDS ARROWa>RIGHTWARDS ARROWa2LEFTWARDS AN",
   "D UPWARDS ARROWa2RIGHTWARDS AND UPWARDS ARROWa2LEFTWARDS AND DOWNWARDS ARROWa2RIGHTWARDS AND DOW",
   "NWARDS ARROWa!RIBBON ARROW DOWN LEFTa7RIGHTa2UP LEFTa5RIGHTa2LEFT UPa2RIGHT UPa2LEFT DOWNa2RIGHT",
   " DOWNa!UPWARDS WHITE ARROW FROM BAR WITH HORIZONTAL BARa$ ARROWHEAD IN A RECTANGLE BOXa!OVERLAPP",
   "ING WHITE SQUARESa7AND BLACK SQUARESa1BLACK SQUARESa!BALLOT BOX WITH LIGHT Xa!CIRCLED Xa+BOLD Xa",
   "!BLACK SQUARE CENTREDa)DIAMOND CENTREDa!TURNED BLACK PENTAGONa!HORIZONTAL BLACK OCTAGONa!BLACK O",
   "CTAGONa)MEDIUM UP-POINTING TRIANGLE CENTREDa2DOWN-POINTING TRIANGLE CENTREDa2LEFT-POINTING TRIAN",
   "GLE CENTREDa2RIGHT-POINTING TRIANGLE CENTREDa!NEPTUNE FORM TWOa!TOP HALF BLACK CIRCLEa!BOTTOM HA",
   "LF BLACK CIRCLEa!LIGHT FOUR POINTED BLACK CUSPa!ROTATED LIGHT FOUR POINTED BLACK CUSPa!WHITE FOU",
   "R POINTED CUSPa!ROTATED WHITE FOUR POINTED CUSPa!SQUARE POSITION INDICATORa!UNCERTAINTY SIGNa!GR",
   "OUP MARKa!PLUTO FORM TWOa1HREEa0FOURa1IVEa!TRANSPLUTOa!PROSERPINAa!ASTRAEAa!HYGIEAa!PHOLUSa!NESS",
   "USa!WHITE MOON SELENAa!BLACK DIAMOND ON CROSSa!TRUE LIGHT MOON ARTAa!CUPIDOa!HADESa!ZEUSa!KRONOS",
   "a!APOLLONa#DMETOSa!VULCANUSa!POSEIDONa!LEFT HALF BLACK STARa!RIGHT HALF BLACK STARa!STAR WITH LE",
   "FT HALF BLACKa.RIGHT HALF BLACKa!LEFTWARDS TWO-HEADED ARROW WITH TRIANGLE ARROWHEADSa!UPWARDS TW",
   "O-HEADED ARROW WITH TRIANGLE ARROWHEADSa!RIGHTWARDS TWO-HEADED ARROW WITH TRIANGLE ARROWHEADSa!D",
   "OWNWARDS TWO-HEADED ARROW WITH TRIANGLE ARROWHEADSa!ERIS FORM ONEa.TWOa!SEDNAa!RUSSIAN ASTROLOGI",
   "CAL SYMBOL VIGINTILEaANOVILEaAQUINTILEaABINOVILEaASENTAGONaATREDECILEa!EQUALS SIGN WITH INFINITY",
   " BELOWa!UNITED SYMBOLa!SEPARATED SYMBOLa!DOUBLED SYMBOLa!PASSED SYMBOLa!REVERSED RIGHT ANGLEa!HE",
   "LLSCHREIBER PAUSE SYMBOLa!GLAGOLITIC CAPITAL LETTER AZUa?BUKYa?VEDEa?GLAGOLIa?DOBROa?YESTUa?ZHIV",
   "ETEa?DZELOa?ZEMLJAa?IZHEa@NITIAL IZHEa?Ia?DJERVIa?KAKOa?LJUDIJEa?MYSLITEa?NASHIa?ONUa?POKOJIa?RI",
   "TSIa?SLOVOa?TVRIDOa?UKUa?FRITUa?HERUa?OTUa?PEa?SHTAa?TSIa?CHRIVIa?SHAa?YERUaBIa@ATIa?SPIDERY HAa",
   "?YUa?SMALL YUSaH WITH TAILa?YOa?IOTATED SMALL YUSa?BIG YUSa?IOTATED BIG YUSa?FITAa?IZHITSAa?SHTA",
   "PICa?TROKUTASTI Aa?LATINATE MYSLITEa?CAUDATE CHRIVIa0SMALL LETTER AZUa=BUKYa=VEDEa=GLAGOLIa=DOBR",
   "Oa=YESTUa=ZHIVETEa=DZELOa=ZEMLJAa=IZHEa>NITIAL IZHEa=Ia=DJERVIa=KAKOa=LJUDIJEa=MYSLITEa=NASHIa=O",
   "NUa=POKOJIa=RITSIa=SLOVOa=TVRIDOa=UKUa=FRITUa=HERUa=OTUa=PEa=SHTAa=TSIa=CHRIVIa=SHAa=YERUa@Ia>AT",
   "Ia=SPIDERY HAa=YUa=SMALL YUSaF WITH TAILa=YOa=IOTATED SMALL YUSa=BIG YUSa=IOTATED BIG YUSa=FITAa",
   "=IZHITSAa=SHTAPICa=TROKUTASTI Aa=LATINATE MYSLITEa=CAUDATE CHRIVIa!LATIN CAPITAL LETTER L WITH D",
   "OUBLE BARa)SMALL LETTER L WITH DOUBLE BARa)CAPITAL LETTER L WITH MIDDLE TILDEa:P WITH STROKEa:R ",
   "WITH TAILa)SMALL LETTER A WITH STROKEa8T WITH DIAGONAL STROKEa)CAPITAL LETTER H WITH DESCENDERa)",
   "SMALL LETTER H WITH DESCENDERa)CAPITAL LETTER K WITH DESCENDERa)SMALL LETTER K WITH DESCENDERa)C",
   "APITAL LETTER Z WITH DESCENDERa)SMALL LETTER Z WITH DESCENDERa)CAPITAL LETTER ALPHAa:M WITH HOOK",
   "a:TURNED AaBLPHAa)SMALL LETTER V WITH RIGHT HOOKa)CAPITAL LETTER W WITH HOOKa)SMALL LETTER W WIT",
   "H HOOKa8V WITH CURLa)CAPITAL LETTER HALF Ha)SMALL LETTER HALF Ha8TAILLESS PHIa8E WITH NOTCHa8TUR",
   "NED R WITH TAILa8O WITH LOW RING INSIDEa)LETTER SMALL CAPITAL TURNED Ea)SUBSCRIPT SMALL LETTER J",
   "a!MODIFIER LETTER CAPITAL Va!LATIN CAPITAL LETTER S WITH SWASH TAILa:Z WITH SWASH TAILa!COPTIC C",
   "APITAL LETTER ALFAa*SMALL LETTER ALFAa*CAPITAL LETTER VIDAa*SMALL LETTER VIDAa*CAPITAL LETTER GA",
   "MMAa*SMALL LETTER GAMMAa*CAPITAL LETTER DALDAa*SMALL LETTER DALDAa*CAPITAL LETTER EIEa*SMALL LET",
   "TER EIEa*CAPITAL LETTER SOUa*SMALL LETTER SOUa*CAPITAL LETTER ZATAa*SMALL LETTER ZATAa*CAPITAL L",
   "ETTER HATEa*SMALL LETTER HATEa*CAPITAL LETTER THETHEa*SMALL LETTER THETHEa*CAPITAL LETTER IAUDAa",
   "*SMALL LETTER IAUDAa*CAPITAL LETTER KAPAa*SMALL LETTER KAPAa*CAPITAL LETTER LAULAa*SMALL LETTER ",
   "LAULAa*CAPITAL LETTER MIa*SMALL LETTER MIa*CAPITAL LETTER NIa*SMALL LETTER NIa*CAPITAL LETTER KS",
   "Ia*SMALL LETTER KSIa*CAPITAL LETTER Oa*SMALL LETTER Oa*CAPITAL LETTER PIa*SMALL LETTER PIa*CAPIT",
   "AL LETTER ROa*SMALL LETTER ROa*CAPITAL LETTER SIMAa*SMALL LETTER SIMAa*CAPITAL LETTER TAUa*SMALL",
   " LETTER TAUa*CAPITAL LETTER UAa*SMALL LETTER UAa*CAPITAL LETTER FIa*SMALL LETTER FIa*CAPITAL LET",
   "TER KHIa*SMALL LETTER KHIa*CAPITAL LETTER PSIa*SMALL LETTER PSIa*CAPITAL LETTER OOUa*SMALL LETTE",
   "R OOUa*CAPITAL LETTER DIALECT-P ALEFa*SMALL LETTER DIALECT-P ALEFa*CAPITAL LETTER OLD COPTIC AIN",
   "a*SMALL LETTER OLD COPTIC AINa*CAPITAL LETTER CRYPTOGRAMMIC EIEa*SMALL LETTER CRYPTOGRAMMIC EIEa",
   "*CAPITAL LETTER DIALECT-P KAPAa*SMALL LETTER DIALECT-P KAPAa*CAPITAL LETTER DIALECT-P NIa*SMALL ",
   "LETTER DIALECT-P NIa*CAPITAL LETTER CRYPTOGRAMMIC NIa*SMALL LETTER CRYPTOGRAMMIC NIa*CAPITAL LET",
   "TER OLD COPTIC OOUa*SMALL LETTER OLD COPTIC OOUa*CAPITAL LETTER SAMPIa*SMALL LETTER SAMPIa*CAPIT",
   "AL LETTER CROSSED SHEIa*SMALL LETTER CROSSED SHEIa*CAPITAL LETTER OLD COPTIC SHEIa*SMALL LETTER ",
   "OLD COPTIC SHEIa*CAPITAL LETTER OLD COPTIC ESHa*SMALL LETTER OLD COPTIC ESHa*CAPITAL LETTER AKHM",
   "IMIC KHEIa*SMALL LETTER AKHMIMIC KHEIa*CAPITAL LETTER DIALECT-P HORIa*SMALL LETTER DIALECT-P HOR",
   "Ia*CAPITAL LETTER OLD COPTIC HORIa*SMALL LETTER OLD COPTIC HORIa*CAPITAL LETTER OLD COPTIC HAa*S",
   "MALL LETTER OLD COPTIC HAa*CAPITAL LETTER L-SHAPED HAa*SMALL LETTER L-SHAPED HAa*CAPITAL LETTER ",
   "OLD COPTIC HEIa*SMALL LETTER OLD COPTIC HEIa*CAPITAL LETTER OLD COPTIC HATa*SMALL LETTER OLD COP",
   "TIC HATa*CAPITAL LETTER OLD COPTIC GANGIAa*SMALL LETTER OLD COPTIC GANGIAa*CAPITAL LETTER OLD CO",
   "PTIC DJAa*SMALL LETTER OLD COPTIC DJAa*CAPITAL LETTER OLD COPTIC SHIMAa*SMALL LETTER OLD COPTIC ",
   "SHIMAa*CAPITAL LETTER OLD NUBIAN SHIMAa*SMALL LETTER OLD NUBIAN SHIMAa*CAPITAL LETTER OLD NUBIAN",
   " NGIa*SMALL LETTER OLD NUBIAN NGIa*CAPITAL LETTER OLD NUBIAN NYIa*SMALL LETTER OLD NUBIAN NYIa*C",
   "APITAL LETTER OLD NUBIAN WAUa*SMALL LETTER OLD NUBIAN WAUa+YMBOL KAIa3MI ROa3PI ROa3STAUROSa3TAU",
   " ROa3KHI ROa3SHIMA SIMAa*CAPITAL LETTER CRYPTOGRAMMIC SHEIa*SMALL LETTER CRYPTOGRAMMIC SHEIa*CAP",
   "ITAL LETTER CRYPTOGRAMMIC GANGIAa*SMALL LETTER CRYPTOGRAMMIC GANGIAa*COMBINING NI ABOVEa6SPIRITU",
   "S ASPERa?LENISa+APITAL LETTER BOHAIRIC KHEIa*SMALL LETTER BOHAIRIC KHEIf*OLD NUBIAN FULL STOPa7D",
   "IRECT QUESTION MARKa7INDIRECT QUESTION MARKa7VERSE DIVIDERa*FRACTION ONE HALFa+ULL STOPa*MORPHOL",
   "OGICAL DIVIDERa!GEORGIAN SMALL LETTER ANa;BANa;GANa;DONa;ENa;VINa;ZENa;TANa;INa;KANa;LASa;MANa;N",
   "ARa;ONa;PARa;ZHARa;RAEa;SANa;TARa;UNa;PHARa;KHARa;GHANa;QARa;SHINa;CHINa<ANa;JILa;CILa<HARa;XANa",
   ";JHANa;HAEa<Ea<IEa;WEa;HARa<OEb;YNf;AENc!TIFINAGH LETTER YAa7Ba8Ha7Ga8HHa5BERBER ACADEMY YAJa5YA",
   "Ja7Da8Ha8Da9Ha6EYa6AFa7Ka5TUAREG YAKa5YAKHHa7Ha5BERBER ACADEMY YAHa5TUAREG YAHa5YAHHa7Aa7KHa5TUA",
   "REG YAKHa5YAQa5TUAREG YAQa5YIa6AZHa5AHAGGAR YAZHa5TUAREG YAZHa5YALa7Ma7Na5TUAREG YAGNa>NGa5YAPa6",
   "Ua6ARa8Ra7GHa5TUAREG YAGHa5AYER YAGHa5YASa8Sa8Ha7Ta8Ha7CHa7TTa7Va7Wa7Ya7Za5TAWELLEMET YAZa5YAZZa",
   "6Ea6Oh,MODIFIER LETTER LABIALIZATION MARKa,SEPARATOR MARKo,CONSONANT JOINERa!ETHIOPIC SYLLABLE L",
   "OAa7MOAa7ROAa7SOAa8HOAa7BOAa7TOAa7COAa7NOAa8YOAa7GLOTTAL OAa7ZOAa7DOAa8DOAa7JOAa7THOAa7CHOAa7PHO",
   "Aa8OAa7GGWAa:Ia:EEa:Ej7SSAa9Ua9Ia9AAa9EEa9Ea9Ob7CCAa9Ua9Ia9AAa9EEa9Ea9Ob7ZZAa9Ua9Ia9AAa9EEa9Ea9O",
   "b7CCHAa:Ua:Ia:AAa:EEa:Ea:Ob7QYAa9Ua9Ia9AAa9EEa9Ea9Ob7KYAa9Ua9Ia9AAa9EEa9Ea9Ob7XYAa9Ua9Ia9AAa9EEa",
   "9Ea9Ob7GYAa9Ua9Ia9AAa9EEa9Ea9Ob!COMBINING CYRILLIC LETTER BEa?VEa?GHEa?DEa?ZHEa@Ea?KAa?ELa@Ma@Na",
   "?Oa?PEa?ERa@Sa?TEa?HAa?TSEa?CHEa?SHAaACHAa?FITAa?ES-TEa?Aa?IEa?DJERVa?MONOGRAPH UKa?YATa@Ua?IOTI",
   "FIED Aa?LITTLE YUSa?BIG YUSa?IOTIFIED BIG YUSa!RIGHT ANGLE SUBSTITUTION MARKERa1DOTTED SUBSTITUT",
   "ION MARKERa!LEFT SUBSTITUTION BRACKETa!RIGHT SUBSTITUTION BRACKETa!LEFT DOTTED SUBSTITUTION BRAC",
   "KETa!RIGHT DOTTED SUBSTITUTION BRACKETa#AISED INTERPOLATION MARKERa*DOTTED INTERPOLATION MARKERa",
   "!DOTTED TRANSPOSITION MARKERa!LEFT TRANSPOSITION BRACKETa!RIGHT TRANSPOSITION BRACKETa#AISED SQU",
   "AREa!LEFT RAISED OMISSION BRACKETa!RIGHT RAISED OMISSION BRACKETa!EDITORIAL CORONISa!PARAGRAPHOS",
   "a!FORKED PARAGRAPHOSa!REVERSED FORKED PARAGRAPHOSa!HYPODIASTOLEa!DOTTED OBELOSa$WNWARDS ANCORAa!",
   "UPWARDS ANCORAa!DOTTED RIGHT-POINTING ANGLEa$UBLE OBLIQUE HYPHENa!INVERTED INTERROBANGa!PALM BRA",
   "NCHa!HYPHEN WITH DIAERESISa!TILDE WITH RING ABOVEa!LEFT LOW PARAPHRASE BRACKETa!RIGHT LOW PARAPH",
   "RASE BRACKETa!TILDE WITH DOT ABOVEa4BELOWa!LEFT VERTICAL BAR WITH QUILLa!RIGHT VERTICAL BAR WITH",
   " QUILLa!TOP LEFT HALF BRACKETa&RIGHT HALF BRACKETa!BOTTOM LEFT HALF BRACKETa*RIGHT HALF BRACKETa",
   "!LEFT SIDEWAYS U BRACKETa!RIGHT SIDEWAYS U BRACKETa!LEFT DOUBLE PARENTHESISa!RIGHT DOUBLE PARENT",
   "HESISa!TWO DOTS OVER ONE DOT PUNCTUATIONa!ONE DOT OVER TWO DOTS PUNCTUATIONa!SQUARED FOUR DOT PU",
   "NCTUATIONa!FIVE DOT MARKa!REVERSED QUESTION MARKa!VERTICAL TILDEa!RING POINTa!WORD SEPARATOR MID",
   "DLE DOTa!TURNED COMMAa!RAISED DOTa*COMMAa!TURNED SEMICOLONa!DAGGER WITH LEFT GUARDa1RIGHT GUARDa",
   "!TURNED DAGGERa#OP HALF SECTION SIGNa#WO-EM DASHa#HREE-EM DASHa!STENOGRAPHIC FULL STOPa!VERTICAL",
   " SIX DOTSa!WIGGLY VERTICAL LINEa!CAPITULUMa!DOUBLE HYPHENa!REVERSED COMMAa!DOUBLE LOW-REVERSED-9",
   " QUOTATION MARKa#ASH WITH LEFT UPTURNa#OUBLE SUSPENSION MARKa!INVERTED LOW KAVYKAa8 WITH KAVYKA ",
   "ABOVEa!LOW KAVYKAa. WITH DOTa!DOUBLE STACKED COMMAa$TTED SOLIDUSa!TRIPLE DAGGERa!MEDIEVAL COMMAa",
   "!PARAGRAPHUS MARKa#UNCTUS ELEVATUS MARKa!CORNISH VERSE DIVIDERa#ROSS PATTY WITH RIGHT CROSSBARa6",
   "LEFT CROSSBARa!TIRONIAN SIGN CAPITAL ETa!MEDIEVAL EXCLAMATION MARKa,QUESTION MARKa!LEFT SQUARE B",
   "RACKET WITH STROKEa!RIGHT SQUARE BRACKET WITH STROKEa!LEFT SQUARE BRACKET WITH DOUBLE STROKEa!RI",
   "GHT SQUARE BRACKET WITH DOUBLE STROKEa!TOP HALF LEFT PARENTHESISa,RIGHT PARENTHESISa!BOTTOM HALF",
   " LEFT PARENTHESISa1RIGHT PARENTHESISa!OBLIQUE HYPHEN!35!!CJK RADICAL REPEATa1CLIFFa1SECOND ONEa8",
   "TWOa9HREEa1PERSONa1BOXa1TABLEa1KNIFE ONEa7TWOa1DIVINATIONa1SEALa2MALL ONEa7TWOa1LAME ONEa6TWOa7H",
   "REEa6FOURa1SNAKEa1THREADa1SNOUT ONEa7TWOa1HEART ONEa7TWOa2ANDa1RAPb1CHOKEa1SUNa1MOONa1DEATHa1MOT",
   "HERa1CIVILIANa1WATER ONEa7TWOa1FIREa1PAW ONEa5TWOa1SIMPLIFIED HALF TREE TRUNKa1COWa1DOGa1JADEa1B",
   "OLT OF CLOTHa1EYEa1SPIRIT ONEa8TWOa1BAMBOOa1SILKa1C-SIMPLIFIED SILKa1NET ONEa5TWOa6HREEa5FOURa1M",
   "ESHa1SHEEPa1RAMa1EWEa1OLDa1BRUSH ONEa7TWOa1MEATa2ORTARa1GRASS ONEa7TWOa8HREEa1TIGERa1CLOTHESa1WE",
   "ST ONEa6TWOa1C-SIMPLIFIED SEEa1SIMPLIFIED HORNa1HORNa1C-SIMPLIFIED SPEECHa?HELLa1FOOTa1C-SIMPLIF",
   "IED CARTa1SIMPLIFIED WALKa1WALK ONEa6TWOa1CITYa2-SIMPLIFIED GOLDa1LONG ONEa6TWOa1C-SIMPLIFIED LO",
   "NGa>GATEa1MOUND ONEa7TWOa1RAINa1BLUEa1C-SIMPLIFIED TANNED LEATHERa>LEAFa>WINDa>FLYa1EAT ONEa5TWO",
   "a6HREEa1C-SIMPLIFIED EATa1HEADa1C-SIMPLIFIED HORSEa1BONEa1GHOSTa1C-SIMPLIFIED FISHa>BIRDa>SALTa1",
   "SIMPLIFIED WHEATa<YELLOWa1C-SIMPLIFIED FROGa1J-SIMPLIFIED EVENa1C-SIMPLIFIED EVENa1J-SIMPLIFIED ",
   "TOOTHa1C-SIMPLIFIED TOOTHa1J-SIMPLIFIED DRAGONa1C-SIMPLIFIED DRAGONa1TURTLEa1J-SIMPLIFIED TURTLE",
   "a1C-SIMPLIFIED TURTLEm!KANGXI RADICAL ONEa4LINEa4DOTa4SLASHa5ECONDa4HOOKa4TWOa4LIDa4MANa4LEGSa4E",
   "NTERa5IGHTa4DOWN BOXa4COVERa4ICEa4TABLEa4OPEN BOXa4KNIFEa4POWERa4WRAPa4SPOONa4RIGHT OPEN BOXa4HI",
   "DING ENCLOSUREa4TENa4DIVINATIONa4SEALa4CLIFFa4PRIVATEa4AGAINa4MOUTHa4ENCLOSUREa5ARTHa4SCHOLARa4G",
   "Oa6 SLOWLYa4EVENINGa4BIGa4WOMANa4CHILDa4ROOFa4INCHa4SMALLa4LAMEa4CORPSEa4SPROUTa4MOUNTAINa4RIVER",
   "a4WORKa4ONESELFa4TURBANa4DRYa4SHORT THREADa4DOTTED CLIFFa4LONG STRIDEa4TWO HANDSa4SHOOTa4BOWa4SN",
   "OUTa4BRISTLEa4STEPa4HEARTa5ALBERDa4DOORa4HANDa4BRANCHa4RAPa4SCRIPTa4DIPPERa4AXEa4SQUAREa4NOTa4SU",
   "Na5AYa4MOONa4TREEa4LACKa4STOPa4DEATHa4WEAPONa4DO NOTa4COMPAREa4FURa4CLANa4STEAMa4WATERa4FIREa4CL",
   "AWa4FATHERa4DOUBLE Xa4HALF TREE TRUNKa4SLICEa4FANGa4COWa4DOGa4PROFOUNDa4JADEa4MELONa4TILEa4SWEET",
   "a4LIFEa4USEa4FIELDa4BOLT OF CLOTHa4SICKNESSa4DOTTED TENTa4WHITEa4SKINa4DISHa4EYEa4SPEARa4ARROWa4",
   "STONEa5PIRITa4TRACKa4GRAINa4CAVEa4STANDa4BAMBOOa4RICEa4SILKa4JARa4NETa4SHEEPa4FEATHERa4OLDa4ANDa",
   "4PLOWa4EARa4BRUSHa4MEATa5INISTERa4SELFa4ARRIVEa4MORTARa4TONGUEa4OPPOSEa4BOATa4STOPPINGa4COLORa4G",
   "RASSa4TIGERa4INSECTa4BLOODa4WALK ENCLOSUREa4CLOTHESa4WESTa4SEEa4HORNa4SPEECHa4VALLEYa4BEANa4PIGa",
   "4BADGERa4SHELLa4REDa5UNa4FOOTa4BODYa4CARTa4BITTERa4MORNINGa4WALKa4CITYa4WINEa4DISTINGUISHa4VILLA",
   "GEa4GOLDa4LONGa4GATEa4MOUNDa4SLAVEa5HORT TAILED BIRDa4RAINa4BLUEa4WRONGa4FACEa4LEATHERa4TANNED L",
   "EATHERa4LEEKa4SOUNDa4LEAFa4WINDa4FLYa4EATa4HEADa4FRAGRANTa4HORSEa4BONEa4TALLa4HAIRa4FIGHTa4SACRI",
   "FICIAL WINEa4CAULDRONa4GHOSTa4FISHa4BIRDa4SALTa4DEERa4WHEATa4HEMPa4YELLOWa4MILLETa4BLACKa4EMBROI",
   "DERYa4FROGa4TRIPODa4DRUMa4RATa4NOSEa4EVENa4TOOTHa4DRAGONa4TURTLEa4FLUTE!27!!IDEOGRAPHIC DESCRIPT",
   "ION CHARACTER LEFT TO RIGHTaGABOVE TO BELOWaGLEFT TO MIDDLE AND RIGHTaGABOVE TO MIDDLE AND BELOW",
   "aGFULL SURROUNDaGSURROUND FROM ABOVEaUBELOWaULEFTaUUPPER LEFTa[RIGHTaULOWER LEFTaGOVERLAIDaGSURR",
   "OUND FROM RIGHTaULOWER RIGHTaGHORIZONTAL REFLECTIONaGROTATIONa1SPACEa1COMMAa1FULL STOPa!DITTO MA",
   "RKa!JAPANESE INDUSTRIAL STANDARD SYMBOLa!IDEOGRAPHIC ITERATION MARKa1CLOSING MARKa1NUMBER ZEROa!",
   "LEFT ANGLE BRACKETa!RIGHT ANGLE BRACKETa!LEFT DOUBLE ANGLE BRACKETa!RIGHT DOUBLE ANGLE BRACKETa!",
   "LEFT CORNER BRACKETa!RIGHT CORNER BRACKETa!LEFT WHITE CORNER BRACKETa!RIGHT WHITE CORNER BRACKET",
   "a!LEFT BLACK LENTICULAR BRACKETa!RIGHT BLACK LENTICULAR BRACKETa!POSTAL MARKa!GETA MARKa!LEFT TO",
   "RTOISE SHELL BRACKETa!RIGHT TORTOISE SHELL BRACKETa!LEFT WHITE LENTICULAR BRACKETa!RIGHT WHITE L",
   "ENTICULAR BRACKETa!LEFT WHITE TORTOISE SHELL BRACKETa!RIGHT WHITE TORTOISE SHELL BRACKETa!LEFT W",
   "HITE SQUARE BRACKETa!RIGHT WHITE SQUARE BRACKETa!WAVE DASHa!REVERSED DOUBLE PRIME QUOTATION MARK",
   "a!DOUBLE PRIME QUOTATION MARKa!LOW DOUBLE PRIME QUOTATION MARKa!POSTAL MARK FACEa!HANGZHOU NUMER",
   "AL ONEa6TWOa7HREEa6FOURa7IVEa6SIXa7EVENa6EIGHTa6NINEa!IDEOGRAPHIC LEVEL TONE MARKa1RISING TONE M",
   "ARKa1DEPARTING TONE MARKa1ENTERING TONE MARKa!HANGUL SINGLE DOT TONE MARKa*DOUBLE DOT TONE MARKa",
   "!WAVY DASHa!VERTICAL KANA REPEAT MARKa:WITH VOICED SOUND MARKa:MARK UPPER HALFa:WITH VOICED SOUN",
   "D MARK UPPER HALFa:MARK LOWER HALFa!CIRCLED POSTAL MARKa!IDEOGRAPHIC TELEGRAPH LINE FEED SEPARAT",
   "OR SYMBOLa!HANGZHOU NUMERAL TENa7WENTYa7HIRTYa!VERTICAL IDEOGRAPHIC ITERATION MARKa!MASU MARKa!P",
   "ART ALTERNATION MARKa!IDEOGRAPHIC VARIATION INDICATORa1HALF FILL SPACEb!HIRAGANA LETTER SMALL Aa",
   "5Aa5SMALL Ia5Ia5SMALL Ua5Ua5SMALL Ea5Ea5SMALL Oa5Oa5KAa5GAa5KIa5GIa5KUa5GUa5KEa5GEa5KOa5GOa5SAa5",
   "ZAa5SIa5ZIa5SUa5ZUa5SEa5ZEa5SOa5ZOa5TAa5DAa5TIa5DIa5SMALL TUa5TUa5DUa5TEa5DEa5TOa5DOa5NAa6Ia6Ua6",
   "Ea6Oa5HAa5BAa5PAa5HIa5BIa5PIa5HUa5BUa5PUa5HEa5BEa5PEa5HOa5BOa5POa5MAa6Ia6Ua6Ea6Oa5SMALL YAa5YAa5",
   "SMALL YUa5YUa5SMALL YOa5YOa5RAa6Ia6Ua6Ea6Oa5SMALL WAa5WAa6Ia6Ea6Oa5Na5VUa5SMALL KAa<Ec!COMBINING",
   " KATAKANA-HIRAGANA VOICED SOUND MARKaASEMI-VOICED SOUND MARKa!KATAKANA-HIRAGANA VOICED SOUND MAR",
   "Ka7SEMI-VOICED SOUND MARKa!HIRAGANA ITERATION MARKa,VOICED ITERATION MARKa,DIGRAPH YORIa!KATAKAN",
   "A-HIRAGANA DOUBLE HYPHENa+ LETTER SMALL Aa5Aa5SMALL Ia5Ia5SMALL Ua5Ua5SMALL Ea5Ea5SMALL Oa5Oa5KA",
   "a5GAa5KIa5GIa5KUa5GUa5KEa5GEa5KOa5GOa5SAa5ZAa5SIa5ZIa5SUa5ZUa5SEa5ZEa5SOa5ZOa5TAa5DAa5TIa5DIa5SM",
   "ALL TUa5TUa5DUa5TEa5DEa5TOa5DOa5NAa6Ia6Ua6Ea6Oa5HAa5BAa5PAa5HIa5BIa5PIa5HUa5BUa5PUa5HEa5BEa5PEa5",
   "HOa5BOa5POa5MAa6Ia6Ua6Ea6Oa5SMALL YAa5YAa5SMALL YUa5YUa5SMALL YOa5YOa5RAa6Ia6Ua6Ea6Oa5SMALL WAa5",
   "WAa6Ia6Ea6Oa5Na5VUa5SMALL KAa<Ea5VAa6Ia6Ea6Oa,MIDDLE DOTa+-HIRAGANA PROLONGED SOUND MARKa+ ITERA",
   "TION MARKa,VOICED ITERATION MARKa,DIGRAPH KOTOf!BOPOMOFO LETTER Ba5Pa5Ma5Fa5Da5Ta5Na5La5Ga5Ka5Ha",
   "5Ja5Qa5Xa5ZHa5CHa5SHa5Ra5Za5Ca5Sa5Aa5Oa5Ea6Ha5AIa5EIa5AUa5OUa5ANa5ENa5ANGa5ENGa6Ra5Ia5Ua5IUa5Va5",
   "NGa5GNa5IHa5O WITH DOT ABOVEa5NNb!HANGUL LETTER KIYEOKa3SSANGKIYEOKa3KIYEOK-SIOSa3NIEUNa8-CIEUCa",
   "9HIEUHa3TIKEUTa3SSANGTIKEUTa3RIEULa8-KIYEOKa9MIEUMa9PIEUPa9SIOSa9THIEUTHa9PHIEUPHa9HIEUHa3MIEUMa",
   "3PIEUPa3SSANGPIEUPa3PIEUP-SIOSa3SIOSa4SANGSIOSa3IEUNGa3CIEUCa3SSANGCIEUCa3CHIEUCHa3KHIEUKHa3THIE",
   "UTHa3PHIEUPHa3HIEUHa3Aa4Ea3YAa5Ea3EOa3Ea3YEOa4Ea3Oa3WAa5Ea3OEa3YOa3Ua3WEOa4Ea4Ia3YUa3EUa3YIa3Ia*",
   "FILLERa*LETTER SSANGNIEUNa3NIEUN-TIKEUTa9SIOSa9PANSIOSa3RIEUL-KIYEOK-SIOSa9TIKEUTa9PIEUP-SIOSa:A",
   "NSIOSa9YEORINHIEUHa3MIEUM-PIEUPa9SIOSa9PANSIOSa3KAPYEOUNMIEUMa3PIEUP-KIYEOKa9TIKEUTa9SIOS-KIYEOK",
   "a>TIKEUTa9CIEUCa9THIEUTHa3KAPYEOUNPIEUPa;SSANGPIEUPa3SIOS-KIYEOKa8NIEUNa8TIKEUTa8PIEUPa8CIEUCa3P",
   "ANSIOSa3SSANGIEUNGa3YESIEUNGa;-SIOSa<PANSIOSa3KAPYEOUNPHIEUPHa3SSANGHIEUHa3YEORINHIEUHa4O-YAa8Ea",
   "6Ia4U-YEOa7Ea6Ia3ARAEAa8Eb!IDEOGRAPHIC ANNOTATION LINKING MARKa<REVERSE MARKa<ONE MARKa<TWO MARK",
   "a=HREE MARKa<FOUR MARKa<TOP MARKa<MIDDLE MARKa<BOTTOM MARKa<FIRST MARKa<SECOND MARKa<THIRD MARKa",
   "<FOURTH MARKa<HEAVEN MARKa<EARTH MARKa<MAN MARKa!BOPOMOFO LETTER BUa5ZIa5JIa5GUa5EEa6NNa5OOa6NNa",
   "5IRa5ANNa5INNa5UNNa5IMa5NGGa5AINNa6UNNa6Ma5OMa6NGa5INNNa,FINAL LETTER Pa;Ta;Ka;Ha,LETTER GHa5LHa",
   "5ZYa,FINAL LETTER Ga,LETTER GWa5KWa5OEa5AHa!CJK STROKE Ta0WGa0XGa0BXGa0SWa0HZZa2Ga1Pa1ZWGa0SZWGa",
   "0HZTa2ZPa1PWGa1ZWa2ZZa0Na0Ha0Sa0Pa0SPa0Da0HZa1Ga0SZa1WZa1Ta1Ga0PDa1Za0TNa0SZZa1WGa0HXWGa1ZZZGa0P",
   "Ga0Ql!IDEOGRAPHIC DESCRIPTION CHARACTER SUBTRACTIONa!KATAKANA LETTER SMALL KUa;SIa<Ua;TOa;NUa;HA",
   "a<Ia<Ua<Ea<Oa;MUa;RAa<Ia<Ua<Ea<Oa!PARENTHESIZED HANGUL KIYEOKa:NIEUNa:TIKEUTa:RIEULa:MIEUMa:PIEU",
   "Pa:SIOSa:IEUNGa:CIEUCa;HIEUCHa:KHIEUKHa:THIEUTHa:PHIEUPHa:HIEUHa:KIYEOK Aa:NIEUN Aa:TIKEUT Aa:RI",
   "EUL Aa:MIEUM Aa:PIEUP Aa:SIOS Aa:IEUNG Aa:CIEUC Aa;HIEUCH Aa:KHIEUKH Aa:THIEUTH Aa:PHIEUPH Aa:HI",
   "EUH Aa:CIEUC Ua3KOREAN CHARACTER OJEONaE HUb3IDEOGRAPH ONEa=TWOa>HREEa=FOURa>IVEa=SIXa>EVENa=EIG",
   "HTa=NINEa=TENa=MOONa=FIREa=WATERa>OODa=METALa=EARTHa=SUNa>TOCKa=HAVEa=SOCIETYa=NAMEa=SPECIALa=FI",
   "NANCIALa=CONGRATULATIONa=LABORa=REPRESENTa=CALLa=STUDYa>UPERVISEa=ENTERPRISEa=RESOURCEa=ALLIANCE",
   "a=FESTIVALa=RESTa=SELFa=REACHa!CIRCLED IDEOGRAPH QUESTIONa7KINDERGARTENa7SCHOOLa7KOTOa+NUMBER TE",
   "N ON BLACK SQUAREa5WENTY ON BLACK SQUAREa5HIRTY ON BLACK SQUAREa4FORTY ON BLACK SQUAREa5IFTY ON ",
   "BLACK SQUAREa4SIXTY ON BLACK SQUAREa5EVENTY ON BLACK SQUAREa4EIGHTY ON BLACK SQUAREa!PARTNERSHIP",
   " SIGNa!CIRCLED NUMBER TWENTY ONEa;TWOa<HREEa;FOURa<IVEa;SIXa<EVENa;EIGHTa;NINEa5HIRTYa: ONEa;TWO",
   "a<HREEa;FOURa<IVEa+HANGUL KIYEOKa4NIEUNa4TIKEUTa4RIEULa4MIEUMa4PIEUPa4SIOSa4IEUNGa4CIEUCa5HIEUCH",
   "a4KHIEUKHa4THIEUTHa4PHIEUPHa4HIEUHa4KIYEOK Aa4NIEUN Aa4TIKEUT Aa4RIEUL Aa4MIEUM Aa4PIEUP Aa4SIOS",
   " Aa4IEUNG Aa4CIEUC Aa5HIEUCH Aa4KHIEUKH Aa4THIEUTH Aa4PHIEUPH Aa4HIEUH Aa+KOREAN CHARACTER CHAMK",
   "Oa>JUEUIa+HANGUL IEUNG Ua!KOREAN STANDARD SYMBOLa!CIRCLED IDEOGRAPH ONEa7TWOa8HREEa7FOURa8IVEa7S",
   "IXa8EVENa7EIGHTa7NINEa7TENa7MOONa7FIREa7WATERa8OODa7METALa7EARTHa7SUNa8TOCKa7HAVEa7SOCIETYa7NAME",
   "a7SPECIALa7FINANCIALa7CONGRATULATIONa7LABORa7SECRETa7MALEa7FEMALEa7SUITABLEa7EXCELLENTa7PRINTa7A",
   "TTENTIONa7ITEMa7RESTa7COPYa9RRECTa7HIGHa7CENTREa7LOWa8EFTa7RIGHTa7MEDICINEa7RELIGIONa7STUDYa8UPE",
   "RVISEa7ENTERPRISEa7RESOURCEa7ALLIANCEa7NIGHTa+NUMBER THIRTY SIXa<EVENa;EIGHTa;NINEa4FORTYa9 ONEa",
   ":TWOa;HREEa:FOURa;IVEa:SIXa;EVENa:EIGHTa:NINEa5IFTYa!IDEOGRAPHIC TELEGRAPH SYMBOL FOR JANUARYaFF",
   "EBRUARYaFMARCHaFAPRILaFMAYaFJUNEaHLYaFAUGUSTaFSEPTEMBERaFOCTOBERaFNOVEMBERaFDECEMBERa!SQUARE HGa",
   "*ERGa+Va!LIMITED LIABILITY SIGNa!CIRCLED KATAKANA Aa6Ia6Ua6Ea6Oa6KAa7Ia7Ua7Ea7Oa6SAa7Ia7Ua7Ea7Oa",
   "6TAa7Ia7Ua7Ea7Oa6NAa7Ia7Ua7Ea7Oa6HAa7Ia7Ua7Ea7Oa6MAa7Ia7Ua7Ea7Oa6YAa7Ua7Oa6RAa7Ia7Ua7Ea7Oa6WAa7I",
   "a7Ea7Oa!SQUARE ERA NAME REIWAa*APAATOa+RUHUAa+NPEAa+ARUa*ININGUa,TIa*UONa*ESUKUUDOa+EKAAa*ONSUa+",
   "OMUa*KAIRIa,RATTOa.ORIIa*GARONa,NMAa+IGAa,NIIa*KYURIIa*GIRUDAAa*KIROa0GURAMUa0MEETORUa0WATTOa*GU",
   "RAMUa2TONa*KURUZEIROa.OONEa+EESUa+ORUNAa,OPOa*SAIKURUa,NTIIMUa+IRINGUa+ENTIa0Oa*DAASUa+ESIa+ORUa",
   "*TONa*NANOa+OTTOa*HAITUa*PAASENTOa.TUa*BAARERUa*PIASUTORUa,KURUa.Oa*BIRUa*HUARADDOa,IITOa*BUSSYE",
   "RUa*HURANa+EKUTAARUa*PESOa,NIHIa*HERUTUa*PENSUa,EZIa*BEETAa*POINTOa*BORUTOa*HONa*PONDOa*HOORUa.N",
   "a*MAIKUROa.RUa,HHAa,RUKUa,NSYONa+IKURONa,RIa0BAARUa+EGAa0TONa,ETORUa*YAADOa.RUa+UANa*RITTORUa,RA",
   "a+UPIIa,UBURUa+EMUa,NTOGENa*WATTOa!IDEOGRAPHIC TELEGRAPH SYMBOL FOR HOUR ZEROaKONEaKTWOaLHREEaKF",
   "OURaLIVEaKSIXaLEVENaKEIGHTaKNINEaKTENaKELEVENaKTWELVEaLHIRTEENaKFOURTEENaLIFTEENaKSIXTEENaLEVENT",
   "EENaKEIGHTEENaKNINETEENaKTWENTYaQ-ONEaRTWOaSHREEaRFOURa!SQUARE HPAa*DAa*AUa*BARa*OVa*PCa*DMa, SQ",
   "UAREDa.CUBEDa*IUa*ERA NAME HEISEIa5SYOUWAa5TAISYOUa5MEIZIa*CORPORATIONa*PA AMPSa*NAa*MU Aa+Aa*KA",
   "a+Ba*MBa*GBa*CALa*KCALa*PFa*NFa*MU Fa.Ga+Ga*KGa*HZa*KHZa*MHZa*GHZa*THZa*MU La+La*DLa*KLa*FMa*NMa",
   "*MU Ma+Ma*CMa*KMa*MM SQUAREDa*CM SQUAREDa*M SQUAREDa*KM SQUAREDa*MM CUBEDa*CM CUBEDa*M CUBEDa*KM",
   " CUBEDa*M OVER Sa4 SQUAREDa*PAa*KPAa*MPAa*GPAa*RADa. OVER Sa6 SQUAREDa*PSa*NSa*MU Sa+Sa*PVa*NVa*",
   "MU Va+Va*KVa*MV MEGAa*PWa*NWa*MU Wa+Wa*KWa*MW MEGAa*K OHMa*M OHMa*AMa*BQa*CCa+Da+ OVER KGa+Oa*DB",
   "a*GYa*HAa+Pa*INa*KKa+M CAPITALa+Ta*LMa+Na+OGa+Xa*MB SMALLa+ILa+OLa*PHa+Ma+PMa+Ra*SRa+Va*WBa*V OV",
   "ER Ma*A OVER Ma!IDEOGRAPHIC TELEGRAPH SYMBOL FOR DAY ONEaJTWOaKHREEaJFOURaKIVEaJSIXaKEVENaJEIGHT",
   "aJNINEaJTENaJELEVENaJTWELVEaKHIRTEENaJFOURTEENaKIFTEENaJSIXTEENaKEVENTEENaJEIGHTEENaJNINETEENaJT",
   "WENTYaP-ONEaQTWOaRHREEaQFOURaRIVEaQSIXaREVENaQEIGHTaQNINEaKHIRTYaP-ONEa!SQUARE GAL!6593!!HEXAGRA",
   "M FOR THE CREATIVE HEAVENa6RECEPTIVE EARTHa2DIFFICULTY AT THE BEGINNINGa2YOUTHFUL FOLLYa2WAITING",
   "a2CONFLICTa2THE ARMYa2HOLDING TOGETHERa2SMALL TAMINGa2TREADINGa2PEACEa2STANDSTILLa2FELLOWSHIPa2G",
   "REAT POSSESSIONa2MODESTYa2ENTHUSIASMa2FOLLOWINGa2WORK ON THE DECAYEDa2APPROACHa2CONTEMPLATIONa2B",
   "ITING THROUGHa2GRACEa2SPLITTING APARTa2RETURNa2INNOCENCEa2GREAT TAMINGa2MOUTH CORNERSa2GREAT PRE",
   "PONDERANCEa2THE ABYSMAL WATERa6CLINGING FIREa2INFLUENCEa2DURATIONa2RETREATa2GREAT POWERa2PROGRES",
   "Sa2DARKENING OF THE LIGHTa2THE FAMILYa2OPPOSITIONa3BSTRUCTIONa2DELIVERANCEa4CREASEa2INCREASEa2BR",
   "EAKTHROUGHa2COMING TO MEETa2GATHERING TOGETHERa2PUSHING UPWARDa2OPPRESSIONa2THE WELLa2REVOLUTION",
   "a2THE CAULDRONa6AROUSING THUNDERa6KEEPING STILL MOUNTAINa2DEVELOPMENTa2THE MARRYING MAIDENa2ABUN",
   "DANCEa2THE WANDERERa6GENTLE WINDa6JOYOUS LAKEa2DISPERSIONa2LIMITATIONa2INNER TRUTHa2SMALL PREPON",
   "DERANCEa2AFTER COMPLETIONa2BEFORE COMPLETION!20993!!YI SYLLABLE ITa2Xa1Ia2Pa2ETa3Xa2Ea3Pa1ATa2Xa",
   "1Aa2Pa1UOXa2Oa3Pa1OTa2Xa1Oa2Pa1EXa1Ea1WU!0!1ITERATION MARKa1BITa3Xa2Ia3Pa3ETa4Xa3Ea4Pa2ATa3Xa2Aa",
   "3Pa2UOXa3Oa4Pa2OTa3Xa2Oa3Pa2EXa2Ea3Pa2UTa3Xa2Ua3Pa3RXa3Ra2YTa3Xa2Ya3Pa3RXa3Ra1PITa3Xa2Ia3Pa3EXa3",
   "Ea4Pa2ATa3Xa2Aa3Pa2UOXa3Oa4Pa2OTa3Xa2Oa3Pa2UTa3Xa2Ua3Pa3RXa3Ra2YTa3Xa2Ya3Pa3RXa3Ra1BBITa4Xa3Ia4P",
   "a4ETa5Xa4Ea5Pa3ATa4Xa3Aa4Pa3UOXa4Oa5Pa3OTa4Xa3Oa4Pa3EXa3Ea4Pa3UTa4Xa3Ua4Pa4RXa4Ra3YTa4Xa3Ya4Pa1N",
   "BITa4Xa3Ia4Pa4EXa4Ea5Pa3ATa4Xa3Aa4Pa3OTa4Xa3Oa4Pa3UTa4Xa3Ua4Pa4RXa4Ra3YTa4Xa3Ya4Pa4RXa4Ra1HMITa4",
   "Xa3Ia4Pa4EXa4Ea5Pa3ATa4Xa3Aa4Pa3UOXa4Oa5Pa3OTa4Xa3Oa4Pa3UTa4Xa3Ua4Pa4RXa4Ra3YXa3Ya4Pa4RXa4Ra1MIT",
   "a3Xa2Ia3Pa3EXa3Ea4Pa2ATa3Xa2Aa3Pa2UOTa4Xa3Oa4Pa2OTa3Xa2Oa3Pa2EXa2Ea2UTa3Xa2Ua3Pa3RXa3Ra2YTa3Xa2Y",
   "a3Pa1FITa3Xa2Ia3Pa2ATa3Xa2Aa3Pa2OXa2Oa3Pa2UTa3Xa2Ua3Pa3RXa3Ra2YTa3Xa2Ya3Pa1VITa3Xa2Ia3Pa3ETa4Xa3",
   "Ea4Pa2ATa3Xa2Aa3Pa2OTa3Xa2Oa3Pa2EXa3Pa2UTa3Xa2Ua3Pa3RXa3Ra2YTa3Xa2Ya3Pa3RXa3Ra1DITa3Xa2Ia3Pa3EXa",
   "3Ea4Pa2ATa3Xa2Aa3Pa2UOXa3Oa2OTa3Xa2Oa3Pa2EXa2Ea3Pa2UTa3Xa2Ua3Pa3RXa3Ra1TITa3Xa2Ia3Pa3EXa3Ea4Pa2A",
   "Ta3Xa2Aa3Pa2UOTa4Xa3Oa4Pa2OTa3Xa2Oa3Pa2EXa2Ea3Pa2UTa3Xa2Ua3Pa3RXa3Ra1DDITa4Xa3Ia4Pa4EXa4Ea5Pa3AT",
   "a4Xa3Aa4Pa3UOXa4Oa5Pa3OTa4Xa3Oa4Pa3EXa3Ea4Pa3UTa4Xa3Ua4Pa4RXa4Ra1NDITa4Xa3Ia4Pa4EXa4Ea3ATa4Xa3Aa",
   "4Pa3OTa4Xa3Oa4Pa3EXa3Ea4Pa3UTa4Xa3Ua4Pa4RXa4Ra1HNITa4Xa3Ia4Pa4ETa5Xa4Ea5Pa3ATa4Xa3Aa4Pa3UOXa4Oa3",
   "OTa4Xa4Pa3EXa3Ea4Pa3UTa1NITa3Xa2Ia3Pa3EXa3Ea4Pa2AXa2Aa3Pa2UOXa3Oa4Pa2OTa3Xa2Oa3Pa2EXa2Ea3Pa2UTa3",
   "Xa2Ua3Pa3RXa3Ra1HLITa4Xa3Ia4Pa4EXa4Ea5Pa3ATa4Xa3Aa4Pa3UOXa4Oa5Pa3OXa3Oa4Pa3EXa3Ea4Pa3UTa4Xa3Ua4P",
   "a4RXa4Ra3YTa4Xa3Ya4Pa4RXa4Ra1LITa3Xa2Ia3Pa3ETa4Xa3Ea4Pa2ATa3Xa2Aa3Pa2UOTa4Xa3Oa4Pa2OTa3Xa2Oa3Pa2",
   "EXa2Ea3Pa2UTa3Xa2Ua3Pa3RXa3Ra2YTa3Xa2Ya3Pa3RXa3Ra1GITa3Xa2Ia3Pa3ETa4Xa3Ea4Pa2ATa3Xa2Aa3Pa2UOTa4X",
   "a3Oa4Pa2OTa3Xa2Oa3Pa2ETa3Xa2Ea3Pa2UTa3Xa2Ua3Pa3RXa3Ra1KITa3Xa2Ia3Pa3EXa3Ea4Pa2ATa3Xa2Aa3Pa2UOXa3",
   "Oa4Pa2OTa3Xa2Oa3Pa2ETa3Xa2Ea3Pa2UTa3Xa2Ua3Pa3RXa3Ra1GGITa4Xa3Ia4EXa4Ea5Pa3ATa4Xa3Aa4Pa3UOTa5Xa4O",
   "a5Pa3OTa4Xa3Oa4Pa3ETa4Xa3Ea4Pa3UTa4Xa3Ua4Pa4RXa4Ra1MGIEXa4Ea3ATa4Xa3Aa4Pa3UOXa4Oa5Pa3OTa4Xa3Oa4P",
   "a3EXa3Ea4Pa3UTa4Xa3Ua4Pa4RXa4Ra1HXITa4Xa3Ia4Pa4ETa5Xa4Ea5Pa3ATa4Xa3Aa4Pa3UOTa5Xa4Oa5Pa3OTa4Xa3Oa",
   "4Pa3EXa3Ea4Pa1NGIEXa4Ea5Pa3ATa4Xa3Aa4Pa3UOTa5Xa4Oa3OTa4Xa3Oa4Pa3EXa3Ea4Pa1HITa3EXa3Ea2ATa3Xa2Aa3",
   "Pa2UOTa4Xa3Oa4Pa2OTa3Xa2Oa3Pa2EXa2Ea3Pa1WATa3Xa2Aa3Pa2UOXa3Oa4Pa2OXa2Oa3Pa2EXa2Ea3Pa1ZITa3Xa2Ia3",
   "Pa3EXa3Ea4Pa2ATa3Xa2Aa3Pa2UOXa3Oa4Pa2OTa3Xa2Oa3Pa2EXa2Ea3Pa2UTa3Xa2Ua3Pa3RXa3Ra2YTa3Xa2Ya3Pa3RXa",
   "3Ra1CITa3Xa2Ia3Pa3ETa4Xa3Ea4Pa2ATa3Xa2Aa3Pa2UOXa3Oa4Pa2OTa3Xa2Oa3Pa2EXa2Ea3Pa2UTa3Xa2Ua3Pa3RXa3R",
   "a2YTa3Xa2Ya3Pa3RXa3Ra1ZZITa4Xa3Ia4Pa4ETa5Xa4Ea5Pa3ATa4Xa3Aa4Pa3OXa3Oa4Pa3EXa3Ea4Pa3UXa3Ua4Pa4RXa",
   "4Ra3YTa4Xa3Ya4Pa4RXa4Ra1NZITa4Xa3Ia4Pa4EXa4Ea5Pa3ATa4Xa3Aa4Pa3UOXa4Oa3OXa4Pa3EXa3Ea3UXa3Ua4Pa4RX",
   "a4Ra3YTa4Xa3Ya4Pa4RXa4Ra1SITa3Xa2Ia3Pa3EXa3Ea4Pa2ATa3Xa2Aa3Pa2UOXa3Oa4Pa2OTa3Xa2Oa3Pa2EXa2Ea3Pa2",
   "UTa3Xa2Ua3Pa3RXa3Ra2YTa3Xa2Ya3Pa3RXa3Ra2SITa4Xa3Ia4Pa4EXa4Ea5Pa3ATa4Xa3Aa4Pa3OTa4Xa3Oa4Pa3EXa3Ea",
   "4Pa3UTa4Xa3Ua4Pa3YTa4Xa3Ya4Pa4RXa4Ra1ZHATa4Xa3Aa4Pa3UOXa4Oa5Pa3OTa4Xa3Oa4Pa3ETa4Xa3Ea4Pa3UTa4Xa3",
   "Ua4Pa4RXa4Ra3YTa4Xa3Ya4Pa4RXa4Ra1CHATa4Xa3Aa4Pa3UOTa5Xa4Oa5Pa3OTa4Xa3Oa4Pa3ETa4Xa3Ea4Pa3UXa3Ua4P",
   "a4RXa4Ra3YTa4Xa3Ya4Pa4RXa4Ra1RRAXa3Aa3UOXa4Oa3OTa4Xa3Oa4Pa3ETa4Xa3Ea4Pa3UTa4Xa3Ua4Pa4RXa4Ra3YTa4",
   "Xa3Ya4Pa4RXa4Ra1NRATa4Xa3Aa4Pa3OXa3Oa4Pa3ETa4Xa3Ea4Pa3UTa4Xa3Ua4Pa4RXa4Ra3YTa4Xa3Ya4Pa4RXa4Ra1SH",
   "ATa4Xa3Aa4Pa3UOXa4Oa5Pa3OTa4Xa3Oa4Pa3ETa4Xa3Ea4Pa3UTa4Xa3Ua4Pa4RXa4Ra3YTa4Xa3Ya4Pa4RXa4Ra1RATa3X",
   "a2Aa3Pa2UOXa3Oa4Pa2OTa3Xa2Oa3Pa2EXa2Ea3Pa2UTa3Xa2Ua3Pa3RXa3Ra2YTa3Xa2Ya3Pa3RXa3Ra1JITa3Xa2Ia3Pa3",
   "ETa4Xa3Ea4Pa2UOTa4Xa3Oa4Pa2OTa3Xa2Oa3Pa2UTa3Xa2Ua3Pa3RXa3Ra2YTa3Xa2Ya3Pa3RXa3Ra1QITa3Xa2Ia3Pa3ET",
   "a4Xa3Ea4Pa2UOTa4Xa3Oa4Pa2OTa3Xa2Oa3Pa2UTa3Xa2Ua3Pa3RXa3Ra2YTa3Xa2Ya3Pa3RXa3Ra1JJITa4Xa3Ia4Pa4ETa",
   "5Xa4Ea5Pa3UOXa4Oa5Pa3OTa4Xa3Oa4Pa3UTa4Xa3Ua4Pa4RXa4Ra3YTa4Xa3Ya4Pa1NJITa4Xa3Ia4Pa4ETa5Xa4Ea5Pa3U",
   "OXa4Oa3OTa4Xa3Oa4Pa3UXa3Ua4Pa4RXa4Ra3YTa4Xa3Ya4Pa4RXa4Ra2YITa4Xa3Ia4Pa4ETa5Xa4Ea5Pa3UOXa4Oa5Pa3O",
   "Ta4Xa3Oa4Pa3UTa4Xa3Ua4Pa1XITa3Xa2Ia3Pa3ETa4Xa3Ea4Pa2UOXa3Oa2OTa3Xa2Oa3Pa2YTa3Xa2Ya3Pa3RXa3Ra1YIT",
   "a3Xa2Ia3Pa3ETa4Xa3Ea4Pa2UOTa4Xa3Oa4Pa2OTa3Xa2Oa3Pa2UTa3Xa2Ua3Pa3RXa3Ra2YTa3Xa2Ya3Pa3RXa3Rd%RADIC",
   "AL QOTa0LIa0KITa0NYIPa0CYPa0SSIa0GGOPa1EPa0MIa0HXITa0LYRa0BBUTa0MOPa0YOa0PUTa0HXUOa0TATa0GAa0ZUP",
   "a0CYTa0DDURa0BURa0GGUOa0NYOPa0TUa0OPa0JJUTa0ZOTa0PYTa0HMOa0YITa0VURa0SHYa0VEPa0ZAa0JOa0NZUPa0JJY",
   "a0GOTa0JJIEa0WOa0DUa0SHURa0LIEa0CYa1UOPa1IPa0HXOPa0SHATa0ZURa0SHOPa0CHEa0ZZIETa0NBIEa0KEj!LISU L",
   "ETTER BAa1PAa2HAa1DAa1TAa2HAa1GAa1KAa2HAa1JAa1CAa2HAa1DZAa1TSAa3HAa1MAa1NAa1LAa1SAa1ZHAa2Aa1NGAa",
   "1HAa1XAa1HHAa1FAa1WAa1SHAa1YAa1GHAa1Aa2Ea1Ea2Ua1Ia1Oa1Ua2Ea2Ha1OEa1TONE MYA TIa6NA POa6MYA CYAa:",
   "BOa:NAa:JEUa(PUNCTUATION COMMAa6FULL STOPa!VAI SYLLABLE EEa4Na2HEEa2WEEa5Na2PEEa2BHEEa3EEa2MBEEa",
   "2KPEEa2MGBEEa2GBEEa2FEEa2VEEa2TEEa3HEEa2DHEEa4HEEa2LEEa2REEa2DEEa2NDEEa2SEEa3HEEa2ZEEa3HEEa2CEEa",
   "2JEEa2NJEEa2YEEa2KEEa2NGGEEa2GEEa2MEEa2NEEa3YEEa2Ia3Na2HIa4Na2WIa4Na2PIa2BHIa3Ia2MBIa2KPIa2MGBIa",
   "2GBIa2FIa2VIa2TIa3HIa2DHIa4HIa2LIa2RIa2DIa2NDIa2SIa3HIa2ZIa3HIa2CIa2JIa2NJIa2YIa2KIa2NGGIa2GIa2M",
   "Ia2NIa3YIa2Aa3Na2NGANa2HAa4Na2WAa4Na2PAa2BHAa3Aa2MBAa2KPAa5Na2MGBAa2GBAa2FAa2VAa2TAa3HAa2DHAa4HA",
   "a2LAa2RAa2DAa2NDAa2SAa3HAa2ZAa3HAa2CAa2JAa2NJAa2YAa2KAa4Na2NGGAa2GAa2MAa2NAa3YAa2OOa4Na2HOOa2WOO",
   "a5Na2POOa2BHOOa3OOa2MBOOa2KPOOa2MGBOOa2GBOOa2FOOa2VOOa2TOOa3HOOa2DHOOa4HOOa2LOOa2ROOa2DOOa2NDOOa",
   "2SOOa3HOOa2ZOOa3HOOa2COOa2JOOa2NJOOa2YOOa2KOOa2NGGOOa2GOOa2MOOa2NOOa3YOOa2Ua3Na2HUa4Na2WUa4Na2PU",
   "a2BHUa3Ua2MBUa2KPUa2MGBUa2GBUa2FUa2VUa2TUa3HUa2DHUa4HUa2LUa2RUa2DUa2NDUa2SUa3HUa2ZUa3HUa2CUa2JUa",
   "2NJUa2YUa2KUa2NGGUa2GUa2MUa2NUa3YUa2Oa3Na2NGONa2HOa4Na2WOa4Na2POa2BHOa3Oa2MBOa2KPOa2MGBOa2GBOa5N",
   "a2FOa2VOa2TOa3HOa2DHOa4HOa2LOa2ROa2DOa2NDOa2SOa3HOa2ZOa3HOa2COa2JOa2NJOa2YOa2KOa2NGGOa2GOa2MOa2N",
   "Oa3YOa2Ea3Na2NGENa2HEa4Na2WEa4Na2PEa2BHEa3Ea2MBEa2KPEa5Na2MGBEa2GBEa5Na2FEa2VEa2TEa3HEa2DHEa4HEa",
   "2LEa2REa2DEa2NDEa2SEa3HEa2ZEa3HEa2CEa2JEa2NJEa2YEa2KEa2NGGEa6Na2GEa4Na2MEa2NEa3YEa3Ga2LENGTHENER",
   "a&COMMAa&FULL STOPa&QUESTION MARKa&SYLLABLE NDOLE FAa8KAa8SOOa)MBOL FEENGa0KEENGa0TINGa0NIIa0BAN",
   "Ga0FAAa0TAAa0DANGa1OONGa0KUNGa0TONGa0DO-Oa0JONGa&DIGIT ZEROa.ONEa.TWOa0HREEa.FOURa0IVEa.SIXa0EVE",
   "Na.EIGHTa.NINEa&SYLLABLE NDOLE MAa8DOu!CYRILLIC CAPITAL LETTER ZEMLYAa,SMALL LETTER ZEMLYAa,CAPI",
   "TAL LETTER DZELOa,SMALL LETTER DZELOa,CAPITAL LETTER REVERSED DZEa,SMALL LETTER REVERSED DZEa,CA",
   "PITAL LETTER IOTAa,SMALL LETTER IOTAa,CAPITAL LETTER DJERVa,SMALL LETTER DJERVa,CAPITAL LETTER M",
   "ONOGRAPH UKa,SMALL LETTER MONOGRAPH UKa,CAPITAL LETTER BROAD OMEGAa,SMALL LETTER BROAD OMEGAa,CA",
   "PITAL LETTER NEUTRAL YERa,SMALL LETTER NEUTRAL YERa,CAPITAL LETTER YERU WITH BACK YERa,SMALL LET",
   "TER YERU WITH BACK YERa,CAPITAL LETTER IOTIFIED YATa,SMALL LETTER IOTIFIED YATa,CAPITAL LETTER R",
   "EVERSED YUa,SMALL LETTER REVERSED YUa,CAPITAL LETTER IOTIFIED Aa,SMALL LETTER IOTIFIED Aa,CAPITA",
   "L LETTER CLOSED LITTLE YUSa,SMALL LETTER CLOSED LITTLE YUSa,CAPITAL LETTER BLENDED YUSa,SMALL LE",
   "TTER BLENDED YUSa,CAPITAL LETTER IOTIFIED CLOSED LITTLE YUSa,SMALL LETTER IOTIFIED CLOSED LITTLE",
   " YUSa,CAPITAL LETTER YNa,SMALL LETTER YNa,CAPITAL LETTER REVERSED TSEa,SMALL LETTER REVERSED TSE",
   "a,CAPITAL LETTER SOFT DEa,SMALL LETTER SOFT DEa,CAPITAL LETTER SOFT ELa,SMALL LETTER SOFT ELa,CA",
   "PITAL LETTER SOFT EMa,SMALL LETTER SOFT EMa,CAPITAL LETTER MONOCULAR Oa,SMALL LETTER MONOCULAR O",
   "a,CAPITAL LETTER BINOCULAR Oa,SMALL LETTER BINOCULAR Oa,CAPITAL LETTER DOUBLE MONOCULAR Oa,SMALL",
   " LETTER DOUBLE MONOCULAR Oa,LETTER MULTIOCULAR Oa#OMBINING CYRILLIC VZMETa8TEN MILLIONS SIGNa8HU",
   "NDRED MILLIONS SIGNa8THOUSAND MILLIONS SIGNa!SLAVONIC ASTERISKa!COMBINING CYRILLIC LETTER UKRAIN",
   "IAN IEa?Ia?YIa?Ua?HARD SIGNa?YERUa?SOFT SIGNa?OMEGAa8KAVYKAa8PAYEROKa#YRILLIC KAVYKAa,PAYEROKa,C",
   "APITAL LETTER DWEa,SMALL LETTER DWEa,CAPITAL LETTER DZWEa,SMALL LETTER DZWEa,CAPITAL LETTER ZHWE",
   "a,SMALL LETTER ZHWEa,CAPITAL LETTER CCHEa,SMALL LETTER CCHEa,CAPITAL LETTER DZZEa,SMALL LETTER D",
   "ZZEa,CAPITAL LETTER TE WITH MIDDLE HOOKa,SMALL LETTER TE WITH MIDDLE HOOKa,CAPITAL LETTER TWEa,S",
   "MALL LETTER TWEa,CAPITAL LETTER TSWEa,SMALL LETTER TSWEa,CAPITAL LETTER TSSEa,SMALL LETTER TSSEa",
   ",CAPITAL LETTER TCHEa,SMALL LETTER TCHEa,CAPITAL LETTER HWEa,SMALL LETTER HWEa,CAPITAL LETTER SH",
   "WEa,SMALL LETTER SHWEa,CAPITAL LETTER DOUBLE Oa,SMALL LETTER DOUBLE Oa,CAPITAL LETTER CROSSED Oa",
   ",SMALL LETTER CROSSED Oa!MODIFIER LETTER CYRILLIC HARD SIGNa>SOFT SIGNa!COMBINING CYRILLIC LETTE",
   "R EFa?IOTIFIED Ea!BAMUM LETTER Aa2KAa2Ua2KUa2EEa2REEa2TAEa2Oa2NYIa2Ia2LAa2PAa2RIIa4EEa2LEEEEa2ME",
   "EEEa2TAAa2NDAAa3JAEMa2Ma2SUUa2MUa2SHIIa3Ia3HEUXa3EUXa2KYEEa3ETa2NUAEa3Ua3JUAEa2YOQa2SHUa2YUQa3Aa",
   "2NSHAa2KEUXa2PEUXa2NJEEa3TEEa2PUEa2WUEa2PEEa2FEEa2RUa2LUa2MIa2NIa2REUXa3AEa2KENa2NGKWAENa4GAa4Aa",
   "2SHOa2PUAEa2FUa3OMa2WAa2NAa2LIa2PIa2LOQa2KOa2MBENa2RENa2MENa3Aa2TIa2KIa2MOa3BAAa2TETa2KPAa2TENa2",
   "NTUUa2SAMBAa2FAAMAEa2KOVUUa4GHOMa)COMBINING MARK KOQNDONa:TUKWENTISa)NJAEMLIa)FULL STOPa)COLONa+",
   "MMAa)SEMICOLONa)QUESTION MARKi!MODIFIER LETTER CHINESE TONE YIN PINGaCANG PINGaCIN SHANGaCANG SH",
   "ANGaCIN QUaCANG QUaCIN RUaCANG RUa5EXTRA-HIGH DOTTED TONE BARa5HIGH DOTTED TONE BARa5MID DOTTED ",
   "TONE BARa5LOW DOTTED TONE BARa5EXTRA-LOW DOTTED TONE BARa;HIGH DOTTED LEFT-STEM TONE BARa5HIGH D",
   "OTTED LEFT-STEM TONE BARa5MID DOTTED LEFT-STEM TONE BARa5LOW DOTTED LEFT-STEM TONE BARa5EXTRA-LO",
   "W DOTTED LEFT-STEM TONE BARa;HIGH LEFT-STEM TONE BARa5HIGH LEFT-STEM TONE BARa5MID LEFT-STEM TON",
   "E BARa5LOW LEFT-STEM TONE BARa5EXTRA-LOW LEFT-STEM TONE BARa5DOT VERTICAL BARa9SLASHa9HORIZONTAL",
   " BARa5LOWER RIGHT CORNER ANGLEa5RAISED UP ARROWa<DOWN ARROWa<EXCLAMATION MARKa<INVERTED EXCLAMAT",
   "ION MARKa5LOW INVERTED EXCLAMATION MARKa5STRESS AND HIGH TONEa@LOW TONEa!LATIN CAPITAL LETTER EG",
   "YPTOLOGICAL ALEFa)SMALL LETTER EGYPTOLOGICAL ALEFa)CAPITAL LETTER EGYPTOLOGICAL AINa)SMALL LETTE",
   "R EGYPTOLOGICAL AINa)CAPITAL LETTER HENGa)SMALL LETTER HENGa)CAPITAL LETTER TZa)SMALL LETTER TZa",
   ")CAPITAL LETTER TRESILLOa)SMALL LETTER TRESILLOa)CAPITAL LETTER CUATRILLOa)SMALL LETTER CUATRILL",
   "Oa)CAPITAL LETTER CUATRILLO WITH COMMAa)SMALL LETTER CUATRILLO WITH COMMAa)LETTER SMALL CAPITAL ",
   "Fa@Sa)CAPITAL LETTER AAa)SMALL LETTER AAa)CAPITAL LETTER AOa)SMALL LETTER AOa)CAPITAL LETTER AUa",
   ")SMALL LETTER AUa)CAPITAL LETTER AVa)SMALL LETTER AVa)CAPITAL LETTER AV WITH HORIZONTAL BARa)SMA",
   "LL LETTER AV WITH HORIZONTAL BARa)CAPITAL LETTER AYa)SMALL LETTER AYa)CAPITAL LETTER REVERSED C ",
   "WITH DOTa)SMALL LETTER REVERSED C WITH DOTa)CAPITAL LETTER K WITH STROKEa)SMALL LETTER K WITH ST",
   "ROKEa)CAPITAL LETTER K WITH DIAGONAL STROKEa)SMALL LETTER K WITH DIAGONAL STROKEa)CAPITAL LETTER",
   " K WITH STROKE AND DIAGONAL STROKEa)SMALL LETTER K WITH STROKE AND DIAGONAL STROKEa)CAPITAL LETT",
   "ER BROKEN La)SMALL LETTER BROKEN La)CAPITAL LETTER L WITH HIGH STROKEa)SMALL LETTER L WITH HIGH ",
   "STROKEa)CAPITAL LETTER O WITH LONG STROKE OVERLAYa)SMALL LETTER O WITH LONG STROKE OVERLAYa)CAPI",
   "TAL LETTER O WITH LOOPa)SMALL LETTER O WITH LOOPa)CAPITAL LETTER OOa)SMALL LETTER OOa)CAPITAL LE",
   "TTER P WITH STROKE THROUGH DESCENDERa)SMALL LETTER P WITH STROKE THROUGH DESCENDERa)CAPITAL LETT",
   "ER P WITH FLOURISHa)SMALL LETTER P WITH FLOURISHa)CAPITAL LETTER P WITH SQUIRREL TAILa)SMALL LET",
   "TER P WITH SQUIRREL TAILa)CAPITAL LETTER Q WITH STROKE THROUGH DESCENDERa)SMALL LETTER Q WITH ST",
   "ROKE THROUGH DESCENDERa)CAPITAL LETTER Q WITH DIAGONAL STROKEa)SMALL LETTER Q WITH DIAGONAL STRO",
   "KEa)CAPITAL LETTER R ROTUNDAa)SMALL LETTER R ROTUNDAa)CAPITAL LETTER RUM ROTUNDAa)SMALL LETTER R",
   "UM ROTUNDAa)CAPITAL LETTER V WITH DIAGONAL STROKEa)SMALL LETTER V WITH DIAGONAL STROKEa)CAPITAL ",
   "LETTER VYa)SMALL LETTER VYa)CAPITAL LETTER VISIGOTHIC Za)SMALL LETTER VISIGOTHIC Za)CAPITAL LETT",
   "ER THORN WITH STROKEa)SMALL LETTER THORN WITH STROKEa)CAPITAL LETTER THORN WITH STROKE THROUGH D",
   "ESCENDERa)SMALL LETTER THORN WITH STROKE THROUGH DESCENDERa)CAPITAL LETTER VENDa)SMALL LETTER VE",
   "NDa)CAPITAL LETTER ETa)SMALL LETTER ETa)CAPITAL LETTER ISa)SMALL LETTER ISa)CAPITAL LETTER CONa)",
   "SMALL LETTER CONa!MODIFIER LETTER USa!LATIN SMALL LETTER DUMa8LUMa8MUMa8NUMa8RUMa)LETTER SMALL C",
   "APITAL RUMa)SMALL LETTER TUMa8UMa)CAPITAL LETTER INSULAR Da)SMALL LETTER INSULAR Da)CAPITAL LETT",
   "ER INSULAR Fa)SMALL LETTER INSULAR Fa)CAPITAL LETTER INSULAR Ga:TURNED INSULAR Ga)SMALL LETTER T",
   "URNED INSULAR Ga)CAPITAL LETTER TURNED La)SMALL LETTER TURNED La)CAPITAL LETTER INSULAR Ra)SMALL",
   " LETTER INSULAR Ra)CAPITAL LETTER INSULAR Sa)SMALL LETTER INSULAR Sa)CAPITAL LETTER INSULAR Ta)S",
   "MALL LETTER INSULAR Ta!MODIFIER LETTER LOW CIRCUMFLEX ACCENTa5COLONa5SHORT EQUALS SIGNa!LATIN CA",
   "PITAL LETTER SALTILLOa)SMALL LETTER SALTILLOa)CAPITAL LETTER TURNED Ha)SMALL LETTER L WITH RETRO",
   "FLEX HOOK AND BELTa)LETTER SINOLOGICAL DOTa)CAPITAL LETTER N WITH DESCENDERa)SMALL LETTER N WITH",
   " DESCENDERa)CAPITAL LETTER C WITH BARa)SMALL LETTER C WITH BARa?PALATAL HOOKa8H WITH PALATAL HOO",
   "Ka)CAPITAL LETTER B WITH FLOURISHa)SMALL LETTER B WITH FLOURISHa)CAPITAL LETTER F WITH STROKEa)S",
   "MALL LETTER F WITH STROKEa)CAPITAL LETTER VOLAPUK AEa)SMALL LETTER VOLAPUK AEa)CAPITAL LETTER VO",
   "LAPUK OEa)SMALL LETTER VOLAPUK OEa)CAPITAL LETTER VOLAPUK UEa)SMALL LETTER VOLAPUK UEa)CAPITAL L",
   "ETTER G WITH OBLIQUE STROKEa)SMALL LETTER G WITH OBLIQUE STROKEa)CAPITAL LETTER K WITH OBLIQUE S",
   "TROKEa)SMALL LETTER K WITH OBLIQUE STROKEa)CAPITAL LETTER N WITH OBLIQUE STROKEa)SMALL LETTER N ",
   "WITH OBLIQUE STROKEa)CAPITAL LETTER R WITH OBLIQUE STROKEa)SMALL LETTER R WITH OBLIQUE STROKEa)C",
   "APITAL LETTER S WITH OBLIQUE STROKEa)SMALL LETTER S WITH OBLIQUE STROKEa)CAPITAL LETTER H WITH H",
   "OOKa:REVERSED OPEN Ea:SCRIPT Ga:L WITH BELTa:SMALL CAPITAL Ia)LETTER SMALL CAPITAL Qa)CAPITAL LE",
   "TTER TURNED KaATa:J WITH CROSSED-TAILa:CHIa:BETAa)SMALL LETTER BETAa)CAPITAL LETTER OMEGAa)SMALL",
   " LETTER OMEGAa)CAPITAL LETTER U WITH STROKEa)SMALL LETTER U WITH STROKEa)CAPITAL LETTER GLOTTAL ",
   "Aa)SMALL LETTER GLOTTAL Aa)CAPITAL LETTER GLOTTAL Ia)SMALL LETTER GLOTTAL Ia)CAPITAL LETTER GLOT",
   "TAL Ua)SMALL LETTER GLOTTAL Ua)CAPITAL LETTER OLD POLISH Oa)SMALL LETTER OLD POLISH Oa)CAPITAL L",
   "ETTER ANGLICANA Wa)SMALL LETTER ANGLICANA Wa)CAPITAL LETTER C WITH PALATAL HOOKa:S WITH HOOKa:Z ",
   "WITH PALATAL HOOKa:D WITH SHORT STROKE OVERLAYa)SMALL LETTER D WITH SHORT STROKE OVERLAYa)CAPITA",
   "L LETTER S WITH SHORT STROKE OVERLAYa)SMALL LETTER S WITH SHORT STROKE OVERLAYf)CAPITAL LETTER C",
   "LOSED INSULAR Ga)SMALL LETTER CLOSED INSULAR Gb8DOUBLE THORNb?WYNNa)CAPITAL LETTER MIDDLE SCOTS ",
   "Sa)SMALL LETTER MIDDLE SCOTS Sa)CAPITAL LETTER SIGMOID Sa)SMALL LETTER SIGMOID Sy!MODIFIER LETTE",
   "R CAPITAL Ca=Fa=Qa!LATIN CAPITAL LETTER REVERSED HALF Ha)SMALL LETTER REVERSED HALF Ha)EPIGRAPHI",
   "C LETTER SIDEWAYS Ia!MODIFIER LETTER CAPITAL H WITH STROKEa5SMALL LIGATURE OEa!LATIN LETTER SMAL",
   "L CAPITAL TURNED Ma)EPIGRAPHIC LETTER REVERSED FaFPa=INVERTED Ma> LONGAa=ARCHAIC Ma!SYLOTI NAGRI",
   " LETTER Aa9Ia2SIGN DVISVARAa2LETTER Ua9Ea9Oa2SIGN HASANTAa2LETTER KOa:HOa9GOa:HOa2SIGN ANUSVARAa",
   "2LETTER COa:HOa9JOa:HOa9TTOa;HOa9DDOa;HOa9TOa:HOa9DOa:HOa9NOa9POa:HOa9BOa:HOa9MOa9ROa9LOa9RROa9S",
   "Oa9HOa2VOWEL SIGN Aa=Ia=Ua=Ea=OOa2POETRY MARK-1a>2a>3a>4a2SIGN ALTERNATE HASANTAd!NORTH INDIC FR",
   "ACTION ONE QUARTERa>HALFa:THREE QUARTERSa:ONE SIXTEENTHa>EIGHTHa:THREE SIXTEENTHSa1QUARTER MARKa",
   "1PLACEHOLDER MARKa1RUPEE MARKa1QUANTITY MARKg!PHAGS-PA LETTER KAa6HAa5GAa5NGAa5CAa6HAa5JAa5NYAa5",
   "TAa6HAa5DAa5NAa5PAa6HAa5BAa5MAa5TSAa7HAa5DZAa5WAa5ZHAa6Aa5SMALL Aa5YAa5RAa5LAa5SHAa6Aa5HAa5Aa5Ia",
   "5Ua5Ea5Oa5QAa5XAa5FAa5GGAa5EEa,SUBJOINED LETTER WAa?YAa,LETTER TTAa7HAa5DDAa5NNAa5ALTERNATE YAa5",
   "VOICELESS SHAa:D HAa5ASPIRATED FAa,SUBJOINED LETTER RAa0PERFIXED LETTER RAa,LETTER CANDRABINDUa,",
   "SINGLE HEAD MARKa,DOUBLE HEAD MARKa,MARK SHADa3DOUBLE SHADi!SAURASHTRA SIGN ANUSVARAa5VISARGAa0L",
   "ETTER Aa8Aa7Ia8Ia7Ua8Ua7VOCALIC Ra@Ra?La@La7Ea8Ea7AIa7Oa8Oa7AUa7KAa8HAa7GAa8HAa7NGAa7CAa8HAa7JAa",
   "8HAa7NYAa7TTAa9HAa7DDAa9HAa7NNAa7TAa8HAa7DAa8HAa7NAa7PAa8HAa7BAa8HAa7MAa7YAa7RAa7LAa7VAa7SHAa8SA",
   "a8Aa7HAa7LLAa0CONSONANT SIGN HAARUa0VOWEL SIGN AAa;Ia<Ia;Ua<Ua;VOCALIC RaDRaCLaDLa;Ea<Ea;AIa;Oa<",
   "Oa;AUa0SIGN VIRAMAa5CANDRABINDUi0DANDAa1OUBLE DANDAa1IGIT ZEROa6ONEa6TWOa7HREEa6FOURa7IVEa6SIXa7",
   "EVENa6EIGHTa6NINEg!COMBINING DEVANAGARI DIGIT ZEROa@ONEa@TWOaAHREEa@FOURaAIVEa@SIXaAEVENa@EIGHTa",
   "@NINEa:LETTER AaAUaAKAaANAaAPAaARAaAVIa:SIGN AVAGRAHAa!DEVANAGARI SIGN SPACING CANDRABINDUa5CAND",
   "RABINDU VIRAMAa5DOUBLE CANDRABINDU VIRAMAa5CANDRABINDU TWOaBHREEaAAVAGRAHAa5PUSHPIKAa0GAP FILLER",
   "a0CARETa0HEADSTROKEa0SIGN SIDDHAMa0JAIN OMa0LETTER AYa0VOWEL SIGN AYa!KAYAH LI DIGIT ZEROa4ONEa4",
   "TWOa5HREEa4FOURa5IVEa4SIXa5EVENa4EIGHTa4NINEa,LETTER KAa6HAa5GAa5NGAa5SAa6HAa5ZAa5NYAa5TAa5HTAa5",
   "NAa5PAa6HAa5MAa5DAa5BAa5RAa5YAa5LAa5WAa5THAa5HAa5VAa5CAa5Aa5OEa5Ia5OOa,VOWEL UEa4Ea4Ua4EEa4Oa,TO",
   "NE PLOPHUa3CALYAa8 PLOPHUa,SIGN CWIa3SHYAa!REJANG LETTER KAa3GAa3NGAa3TAa3DAa3NAa3PAa3BAa3MAa3CA",
   "a3JAa3NYAa3SAa3RAa3LAa3YAa3WAa3HAa3MBAa3NGGAa4DAa4YJAa3Aa*VOWEL SIGN Ia7Ua7Ea7AIa7Oa7AUa7EUa8Aa*",
   "CONSONANT SIGN NGa;Na;Ra;Ha*VIRAMAl*SECTION MARKa!HANGUL CHOSEONG TIKEUT-MIEUMa<PIEUPa<SIOSa<CIE",
   "UCa5RIEUL-KIYEOKa;SSANGKIYEOKa;TIKEUTa;SSANGTIKEUTa;MIEUMa;PIEUPa;SSANGPIEUPa;KAPYEOUNPIEUPa;SIO",
   "Sa;CIEUCa;KHIEUKHa5MIEUM-KIYEOKa;TIKEUTa;SIOSa5PIEUP-SIOS-THIEUTHa;KHIEUKHa;HIEUHa5SSANGSIOS-PIE",
   "UPa5IEUNG-RIEULa;HIEUHa5SSANGCIEUC-HIEUHa:THIEUTHa5PHIEUPH-HIEUHa5HIEUH-SIOSa5SSANGYEORINHIEUHd!",
   "JAVANESE SIGN PANYANGGAa3CECAKa3LAYARa3WIGNYANa,LETTER Aa5I KAWIa5Ia6Ia5Ua5PA CEREKa5NGA LELETa>",
   " RASWADIa5Ea5AIa5Oa5KAa7 SASAKa8MURDAa5GAa7 MURDAa5NGAa5CAa7 MURDAa5JAa5NYA MURDAa5JA MAHAPRANAa",
   "5NYAa5TTAa8 MAHAPRANAa5DDAa8 MAHAPRANAa5NA MURDAa5TAa7 MURDAa5DAa7 MAHAPRANAa5NAa5PAa7 MURDAa5BA",
   "a7 MURDAa5MAa5YAa5RAa7 AGUNGa5LAa5WAa5SA MURDAa9AHAPRANAa6Aa5HAa,SIGN CECAK TELUa,VOWEL SIGN TAR",
   "UNGa:OLONGa9WULUa= MELIKa9SUKUa= MENDUTa9TALINGa9DIRGA MUREa9PEPETa,CONSONANT SIGN KERETa=PENGKA",
   "La=CAKRAa,PANGKONa,LEFT RERENGGANa,RIGHT RERENGGANa,PADA ANDAPa3MADYAa3LUHURa3WINDUa3PANGKATa3LI",
   "NGSAa4UNGSIa3ADEGa7 ADEGa3PISELEHa,TURNED PADA PISELEHb,PANGRANGKEPa,DIGIT ZEROa4ONEa4TWOa5HREEa",
   "4FOURa5IVEa4SIXa5EVENa4EIGHTa4NINEe,PADA TIRTA TUMETESa3ISEN-ISENa!MYANMAR LETTER SHAN GHAa9CHAa",
   "9JHAa9NNAa9BHAa+SIGN SHAN SAWa+MODIFIER LETTER SHAN REDUPLICATIONa+LETTER TAI LAING NYAa>FAa>GAa",
   "?HAa>JAa?HAa>DDAa@HAa>NNAa+TAI LAING DIGIT ZEROa=ONEa=TWOa>HREEa=FOURa>IVEa=SIXa>EVENa=EIGHTa=NI",
   "NEa+LETTER TAI LAING LLAa>DAa?HAa>BAa?HAb!CHAM LETTER Aa1Ia1Ua1Ea1AIa1Oa1KAa2HAa1GAa2HAa1NGUEa3A",
   "a1CHAa3HAa1JAa2HAa1NHUEa3Aa3JAa1TAa2HAa1DAa2HAa1NUEa2Aa1DDAa1PAa2PAa2HAa1BAa2HAa1MUEa2Aa1BBAa1YA",
   "a1RAa1LAa1VAa1SSAa2Aa1HAa(VOWEL SIGN AAa5Ia6Ia5EIa5Ua5OEa5Oa5AIa6Ua5UEa(CONSONANT SIGN YAa9RAa9L",
   "Aa9WAj(LETTER FINAL Ka7Ga7NGa(CONSONANT SIGN FINAL NGa(LETTER FINAL CHa7Ta7Na7Pa7Ya7Ra7La7SSa(CO",
   "NSONANT SIGN FINAL Ma?Hc(DIGIT ZEROa0ONEa0TWOa1HREEa0FOURa1IVEa0SIXa1EVENa0EIGHTa0NINEc(PUNCTUAT",
   "ION SPIRALa6DANDAa7OUBLE DANDAa6TRIPLE DANDAa!MYANMAR LETTER KHAMTI GAa;CAa<HAa;JAa<HAa;NYAa;TTA",
   "a=HAa;DDAa=HAa<HAa;NAa;SAa;HAa<HA!0!;LLAa;FAa+MODIFIER LETTER KHAMTI REDUPLICATIONa+LETTER KHAMT",
   "I XAa;ZAa;RAa,OGOGRAM KHAMTI OAYa=QNa=HMa+SYMBOL AITON EXCLAMATIONa:ONEa:TWOa+LETTER AITON RAa+S",
   "IGN PAO KAREN TONEa2TAI LAING TONE-2aA5a+LETTER SHWE PALAUNG CHAaASHAa!TAI VIET LETTER LOW KOa5H",
   "IGH KOa5LOW KHOa5HIGH KHOa5LOW KHHOa5HIGH KHHOa5LOW GOa5HIGH GOa5LOW NGOa5HIGH NGOa5LOW COa5HIGH",
   " COa5LOW CHOa5HIGH CHOa5LOW SOa5HIGH SOa5LOW NYOa5HIGH NYOa5LOW DOa5HIGH DOa5LOW TOa5HIGH TOa5LO",
   "W THOa5HIGH THOa5LOW NOa5HIGH NOa5LOW BOa5HIGH BOa5LOW POa5HIGH POa5LOW PHOa5HIGH PHOa5LOW FOa5H",
   "IGH FOa5LOW MOa5HIGH MOa5LOW YOa5HIGH YOa5LOW ROa5HIGH ROa5LOW LOa5HIGH LOa5LOW VOa5HIGH VOa5LOW",
   " HOa5HIGH HOa5LOW Oa5HIGH Oa,MAI KANGa,VOWEL AAa4Ia4UEa4Ua4Ea4Oa,MAI KHITa,VOWEL IAa4UEAa5Aa4AUE",
   "a5Ya5Na5Ma,TONE MAI EKa7NUENGa7THOa7SONGy,SYMBOL KONa5NUENGa5SAMa5HO HOIa5KOI KOIa!MEETEI MAYEK ",
   "LETTER Ea9Oa9CHAa9NYAa9TTAa;HAa9DDAa;HAa9NNAa9SHAa:SAa2VOWEL SIGN IIa=UUa=AAIa>Ua>AUa2CHEIKHANa2",
   "AHANG KHUDAMa3NJIa2SYLLABLE REPETITION MARKa2WORD REPETITION MARKa2VOWEL SIGN VISARGAa3IRAMAk!ET",
   "HIOPIC SYLLABLE TTHUa:Ia:AAa:EEa:Ea:Oc7DDHUa:Ia:AAa:EEa:Ea:Oc8ZUa9Ia9AAa9EEa9Ea9Oj7CCHHAa;Ua;Ia;",
   "AAa;EEa;Ea;Ob7BBAa9Ua9Ia9AAa9EEa9Ea9Ob!LATIN SMALL LETTER BARRED ALPHAa8A REVERSED-SCHWAa8BLACKL",
   "ETTER Ea9ARRED Ea8E WITH FLOURISHa8LENIS Fa8SCRIPT G WITH CROSSED-TAILa8L WITH INVERTED LAZY Sa?",
   "DOUBLE MIDDLE TILDEa?MIDDLE RINGa8M WITH CROSSED-TAILa8N WITH CROSSED-TAILa8ENG WITH CROSSED-TAI",
   "La8BLACKLETTER OaE WITH STROKEa8OPEN O WITH STROKEa8INVERTED OEa8TURNED OE WITH STROKEaGHORIZONT",
   "AL STROKEa@ OPEN-OaG WITH STROKEa8STIRRUP Ra)LETTER SMALL CAPITAL R WITH RIGHT LEGa)SMALL LETTER",
   " R WITHOUT HANDLEa8DOUBLE Ra8R WITH CROSSED-TAILa8DOUBLE R WITH CROSSED-TAILa8SCRIPT Ra@ WITH RI",
   "NGa8BASELINE ESHa8U WITH SHORT RIGHT LEGa:BAR WITH SHORT RIGHT LEGa9Ia8TURNED UIa8U WITH LEFT HO",
   "OKa8CHIa; WITH LOW RIGHT RINGaELEFT SERIFa8X WITH LOW RIGHT RINGaANG LEFT LEGaL AND LOW RIGHT RI",
   "NGaMWITH SERIFa8Y WITH SHORT RIGHT LEGa!MODIFIER BREVE WITH INVERTED BREVEa,LETTER SMALL HENGa;L",
   " WITH INVERTED LAZY SaBMIDDLE TILDEa;U WITH LEFT HOOKa!LATIN SMALL LETTER SAKHA YATa8IOTIFIED Ea",
   "8OPEN OEa8UOa8INVERTED ALPHAa!GREEK LETTER SMALL CAPITAL OMEGAa!LATIN SMALL LETTER DZ DIGRAPH WI",
   "TH RETROFLEX HOOKa8TS DIGRAPH WITH RETROFLEX HOOKa9URNED R WITH MIDDLE TILDEa!MODIFIER LETTER SM",
   "ALL TURNED Wa5LEFT TACKa5RIGHT TACKe!CHEROKEE SMALL LETTER Aa;Ea;Ia;Oa;Ua;Va;GAa;KAa;GEa<Ia<Oa<U",
   "a<Va;HAa<Ea<Ia<Oa<Ua<Va;LAa<Ea<Ia<Oa<Ua<Va;MAa<Ea<Ia<Oa<Ua;NAa;HNAa;NAHa<Ea<Ia<Oa<Ua<Va;QUAa=Ea=",
   "Ia=Oa=Ua=Va;SAa;Sa<Ea<Ia<Oa<Ua<Va;DAa;TAa;DEa;TEa;DIa;TIa;DOa<Ua<Va<LAa;TLAa=Ea=Ia=Oa=Ua=Va<SAa=",
   "Ea=Ia=Oa=Ua=Va;WAa<Ea<Ia<Oa<Ua<Va;YAa!MEETEI MAYEK LETTER KOKa9SAMa9LAIa9MITa9PAa9NAa9CHILa9TILa",
   "9KHOUa9NGOUa9THOUa9WAIa9YANGa9HUKa9UNa9Ia9PHAMa9ATIYAa9GOKa9JHAMa9RAIa9BAa9JILa9DILa9GHOUa9DHOUa",
   "9BHAMa9KOK LONSUMa9LAI LONSUMa9MIT LONSUMa9PA LONSUMa9NA LONSUMa9TIL LONSUMa9NGOU LONSUMa9I LONS",
   "UMa2VOWEL SIGN ONAPa=INAPa=ANAPa=YENAPa=SOUNAPa=UNAPa=CHEINAPa=NUNGa2CHEIKHEIa2LUM IYEKa2APUN IY",
   "EKc2DIGIT ZEROa8ONEa8TWOa9HREEa8FOURa9IVEa8SIXa9EVENa8EIGHTa8NINE!11191!!HANGUL JUNGSEONG O-YEOa",
   "8O-Ia6YO-Aa:Ea9EOa6U-YEOa8I-Ia6YU-AEa9Oa6EU-Aa9EOa9Ea9Oa6I-YA-Oa:Ea9EOa9Ea8O-Ia8YOa9Ua8Ia6ARAEA-",
   "Aa<Ee+ONGSEONG NIEUN-RIEULa<CHIEUCHa6SSANGTIKEUTaA-PIEUPa6TIKEUT-PIEUPa=SIOSaA-KIYEOKa=CIEUCa>HI",
   "EUCHa=THIEUTHa6RIEUL-SSANGKIYEOKa<KIYEOK-HIEUHa6SSANGRIEUL-KHIEUKHa6RIEUL-MIEUM-HIEUHa<PIEUP-TIK",
   "EUTaBPHIEUPHa<YESIEUNGa>ORINHIEUH-HIEUHa6KAPYEOUNRIEULa6MIEUM-NIEUNa<SSANGNIEUNa6SSANGMIEUMa6MIE",
   "UM-PIEUP-SIOSa<CIEUCa6PIEUP-TIKEUTa<RIEUL-PHIEUPHa<MIEUMa6SSANGPIEUPa6PIEUP-SIOS-TIKEUTa<CIEUCa=",
   "HIEUCHa6SIOS-MIEUMa;KAPYEOUNPIEUPa7SANGSIOS-KIYEOKa@TIKEUTa7IOS-PANSIOSa;CIEUCa<HIEUCHa;THIEUTHa",
   ";HIEUHa6PANSIOS-PIEUPa>KAPYEOUNPIEUPa6YESIEUNG-MIEUMa?HIEUHa6CIEUC-PIEUPa<SSANGPIEUPa6SSANGCIEUC",
   "a6PHIEUPH-SIOSa>THIEUTH!8965!!LATIN SMALL LIGATURE FFa;Ia;La;FIa<La:LONG S Ta:STm!ARMENIAN SMALL",
   " LIGATURE MEN NOWaAECHaAINIa=VEW NOWa=MEN XEHf!HEBREW LETTER YOD WITH HIRIQa*POINT JUDEO-SPANISH",
   " VARIKAa*LIGATURE YIDDISH YOD YOD PATAHa+ETTER ALTERNATIVE AYINa3WIDE ALEFa8DALETa8HEa8KAFa8LAME",
   "Da8FINAL MEMa8RESHa8TAVa3ALTERNATIVE PLUS SIGNa3SHIN WITH SHIN DOTa>IN DOTa=DAGESH AND SHIN DOTa",
   "IIN DOTa3ALEF WITH PATAHa=QAMATSa=MAPIQa3BET WITH DAGESHa3GIMEL WITH DAGESHa3DALET WITH DAGESHa3",
   "HE WITH MAPIQa3VAV WITH DAGESHa3ZAYIN WITH DAGESHb3TET WITH DAGESHa3YOD WITH DAGESHa3FINAL KAF W",
   "ITH DAGESHa3KAF WITH DAGESHa3LAMED WITH DAGESHb3MEM WITH DAGESHb3NUN WITH DAGESHa3SAMEKH WITH DA",
   "GESHb3FINAL PE WITH DAGESHa3PE WITH DAGESHb3TSADI WITH DAGESHa3QOF WITH DAGESHa3RESH WITH DAGESH",
   "a3SHIN WITH DAGESHa3TAV WITH DAGESHa3VAV WITH HOLAMa3BET WITH RAFEa3KAF WITH RAFEa3PE WITH RAFEa",
   "+IGATURE ALEF LAMEDa!ARABIC LETTER ALEF WASLA ISOLATED FORMa>FINAL FORMa3BEEH ISOLATED FORMa8FIN",
   "AL FORMa8INITIAL FORMa8MEDIAL FORMa3PEH ISOLATED FORMa7FINAL FORMa7INITIAL FORMa7MEDIAL FORMa3BE",
   "HEH ISOLATED FORMa9FINAL FORMa9INITIAL FORMa9MEDIAL FORMa3TTEHEH ISOLATED FORMa:FINAL FORMa:INIT",
   "IAL FORMa:MEDIAL FORMa4EHEH ISOLATED FORMa9FINAL FORMa9INITIAL FORMa9MEDIAL FORMa4TEH ISOLATED F",
   "ORMa8FINAL FORMa8INITIAL FORMa8MEDIAL FORMa3VEH ISOLATED FORMa7FINAL FORMa7INITIAL FORMa7MEDIAL ",
   "FORMa3PEHEH ISOLATED FORMa9FINAL FORMa9INITIAL FORMa9MEDIAL FORMa3DYEH ISOLATED FORMa8FINAL FORM",
   "a8INITIAL FORMa8MEDIAL FORMa3NYEH ISOLATED FORMa8FINAL FORMa8INITIAL FORMa8MEDIAL FORMa3TCHEH IS",
   "OLATED FORMa9FINAL FORMa9INITIAL FORMa9MEDIAL FORMa8EH ISOLATED FORMa;FINAL FORMa;INITIAL FORMa;",
   "MEDIAL FORMa3DDAHAL ISOLATED FORMa:FINAL FORMa4AHAL ISOLATED FORMa9FINAL FORMa4UL ISOLATED FORMa",
   "7FINAL FORMa4DAL ISOLATED FORMa8FINAL FORMa3JEH ISOLATED FORMa7FINAL FORMa3RREH ISOLATED FORMa8F",
   "INAL FORMa3KEHEH ISOLATED FORMa9FINAL FORMa9INITIAL FORMa9MEDIAL FORMa3GAF ISOLATED FORMa7FINAL ",
   "FORMa7INITIAL FORMa7MEDIAL FORMa4UEH ISOLATED FORMa8FINAL FORMa8INITIAL FORMa8MEDIAL FORMa3NGOEH",
   " ISOLATED FORMa9FINAL FORMa9INITIAL FORMa9MEDIAL FORMa4OON GHUNNA ISOLATED FORMa?FINAL FORMa3RNO",
   "ON ISOLATED FORMa9FINAL FORMa9INITIAL FORMa9MEDIAL FORMa3HEH WITH YEH ABOVE ISOLATED FORMaFFINAL",
   " FORMa7GOAL ISOLATED FORMa<FINAL FORMa<INITIAL FORMa<MEDIAL FORMa7DOACHASHMEE ISOLATED FORMaCFIN",
   "AL FORMaCINITIAL FORMaCMEDIAL FORMa3YEH BARREE ISOLATED FORMa>FINAL FORMa>WITH HAMZA ABOVE ISOLA",
   "TED FORMaOFINAL FORMa*SYMBOL DOT ABOVEa7BELOWa3TWO DOTS ABOVEa<BELOWa4HREE DOTS ABOVEa>BELOWa>PO",
   "INTING DOWNWARDS ABOVEaQBELOWa3FOUR DOTS ABOVEa=BELOWa3DOUBLE VERTICAL BAR BELOWa3TWO DOTS VERTI",
   "CALLY ABOVEaGBELOWa3RINGa3SMALL TAH ABOVEa=BELOWa3WASLA ABOVEq*LETTER NG ISOLATED FORMa6FINAL FO",
   "RMa6INITIAL FORMa6MEDIAL FORMa3U ISOLATED FORMa5FINAL FORMa3OE ISOLATED FORMa6FINAL FORMa3YU ISO",
   "LATED FORMa6FINAL FORMa3U WITH HAMZA ABOVE ISOLATED FORMa3VE ISOLATED FORMa6FINAL FORMa3KIRGHIZ ",
   "OE ISOLATED FORMa>FINAL FORMa;YU ISOLATED FORMa>FINAL FORMa3E ISOLATED FORMa5FINAL FORMa5INITIAL",
   " FORMa5MEDIAL FORMa3UIGHUR KAZAKH KIRGHIZ ALEF MAKSURA INITIAL FORMaVMEDIAL FORMa+IGATURE YEH WI",
   "TH HAMZA ABOVE WITH ALEF ISOLATED FORMaTFINAL FORMaPE ISOLATED FORMaRFINAL FORMaOWAW ISOLATED FO",
   "RMaSFINAL FORMaOU ISOLATED FORMaQFINAL FORMaOOE ISOLATED FORMaRFINAL FORMaOYU ISOLATED FORMaRFIN",
   "AL FORMaOE ISOLATED FORMaQFINAL FORMaQINITIAL FORMa5UIGHUR KIRGHIZ YEH WITH HAMZA ABOVE WITH ALE",
   "F MAKSURA ISOLATED FORMamFINAL FORMamINITIAL FORMa+ETTER FARSI YEH ISOLATED FORMa=FINAL FORMa=IN",
   "ITIAL FORMa=MEDIAL FORMa+IGATURE YEH WITH HAMZA ABOVE WITH JEEM ISOLATED FORMaOHAH ISOLATED FORM",
   "aOMEEM ISOLATED FORMaOALEF MAKSURA ISOLATED FORMaOYEH ISOLATED FORMa5BEH WITH JEEM ISOLATED FORM",
   "a>HAH ISOLATED FORMa>KHAH ISOLATED FORMa>MEEM ISOLATED FORMa>ALEF MAKSURA ISOLATED FORMa>YEH ISO",
   "LATED FORMa5TEH WITH JEEM ISOLATED FORMa>HAH ISOLATED FORMa>KHAH ISOLATED FORMa>MEEM ISOLATED FO",
   "RMa>ALEF MAKSURA ISOLATED FORMa>YEH ISOLATED FORMa6HEH WITH JEEM ISOLATED FORMa?MEEM ISOLATED FO",
   "RMa?ALEF MAKSURA ISOLATED FORMa?YEH ISOLATED FORMa5JEEM WITH HAH ISOLATED FORMa?MEEM ISOLATED FO",
   "RMa5HAH WITH JEEM ISOLATED FORMa>MEEM ISOLATED FORMa5KHAH WITH JEEM ISOLATED FORMa?HAH ISOLATED ",
   "FORMa?MEEM ISOLATED FORMa5SEEN WITH JEEM ISOLATED FORMa?HAH ISOLATED FORMa?KHAH ISOLATED FORMa?M",
   "EEM ISOLATED FORMa6AD WITH HAH ISOLATED FORMa>MEEM ISOLATED FORMa5DAD WITH JEEM ISOLATED FORMa>H",
   "AH ISOLATED FORMa>KHAH ISOLATED FORMa>MEEM ISOLATED FORMa5TAH WITH HAH ISOLATED FORMa>MEEM ISOLA",
   "TED FORMa5ZAH WITH MEEM ISOLATED FORMa5AIN WITH JEEM ISOLATED FORMa>MEEM ISOLATED FORMa5GHAIN WI",
   "TH JEEM ISOLATED FORMa@MEEM ISOLATED FORMa5FEH WITH JEEM ISOLATED FORMa>HAH ISOLATED FORMa>KHAH ",
   "ISOLATED FORMa>MEEM ISOLATED FORMa>ALEF MAKSURA ISOLATED FORMa>YEH ISOLATED FORMa5QAF WITH HAH I",
   "SOLATED FORMa>MEEM ISOLATED FORMa>ALEF MAKSURA ISOLATED FORMa>YEH ISOLATED FORMa5KAF WITH ALEF I",
   "SOLATED FORMa>JEEM ISOLATED FORMa>HAH ISOLATED FORMa>KHAH ISOLATED FORMa>LAM ISOLATED FORMa>MEEM",
   " ISOLATED FORMa>ALEF MAKSURA ISOLATED FORMa>YEH ISOLATED FORMa5LAM WITH JEEM ISOLATED FORMa>HAH ",
   "ISOLATED FORMa>KHAH ISOLATED FORMa>MEEM ISOLATED FORMa>ALEF MAKSURA ISOLATED FORMa>YEH ISOLATED ",
   "FORMa5MEEM WITH JEEM ISOLATED FORMa?HAH ISOLATED FORMa?KHAH ISOLATED FORMa?MEEM ISOLATED FORMa?A",
   "LEF MAKSURA ISOLATED FORMa?YEH ISOLATED FORMa5NOON WITH JEEM ISOLATED FORMa?HAH ISOLATED FORMa?K",
   "HAH ISOLATED FORMa?MEEM ISOLATED FORMa?ALEF MAKSURA ISOLATED FORMa?YEH ISOLATED FORMa5HEH WITH J",
   "EEM ISOLATED FORMa>MEEM ISOLATED FORMa>ALEF MAKSURA ISOLATED FORMa>YEH ISOLATED FORMa5YEH WITH J",
   "EEM ISOLATED FORMa>HAH ISOLATED FORMa>KHAH ISOLATED FORMa>MEEM ISOLATED FORMa>ALEF MAKSURA ISOLA",
   "TED FORMa>YEH ISOLATED FORMa5THAL WITH SUPERSCRIPT ALEF ISOLATED FORMa5REH WITH SUPERSCRIPT ALEF",
   " ISOLATED FORMa5ALEF MAKSURA WITH SUPERSCRIPT ALEF ISOLATED FORMa5SHADDA WITH DAMMATAN ISOLATED ",
   "FORMaAKASRATAN ISOLATED FORMaAFATHA ISOLATED FORMaADAMMA ISOLATED FORMaAKASRA ISOLATED FORMaASUP",
   "ERSCRIPT ALEF ISOLATED FORMa5YEH WITH HAMZA ABOVE WITH REH FINAL FORMaOZAIN FINAL FORMaOMEEM FIN",
   "AL FORMaONOON FINAL FORMaOALEF MAKSURA FINAL FORMaOYEH FINAL FORMa5BEH WITH REH FINAL FORMa>ZAIN",
   " FINAL FORMa>MEEM FINAL FORMa>NOON FINAL FORMa>ALEF MAKSURA FINAL FORMa>YEH FINAL FORMa5TEH WITH",
   " REH FINAL FORMa>ZAIN FINAL FORMa>MEEM FINAL FORMa>NOON FINAL FORMa>ALEF MAKSURA FINAL FORMa>YEH",
   " FINAL FORMa6HEH WITH REH FINAL FORMa?ZAIN FINAL FORMa?MEEM FINAL FORMa?NOON FINAL FORMa?ALEF MA",
   "KSURA FINAL FORMa?YEH FINAL FORMa5FEH WITH ALEF MAKSURA FINAL FORMa>YEH FINAL FORMa5QAF WITH ALE",
   "F MAKSURA FINAL FORMa>YEH FINAL FORMa5KAF WITH ALEF FINAL FORMa>LAM FINAL FORMa>MEEM FINAL FORMa",
   ">ALEF MAKSURA FINAL FORMa>YEH FINAL FORMa5LAM WITH MEEM FINAL FORMa>ALEF MAKSURA FINAL FORMa>YEH",
   " FINAL FORMa5MEEM WITH ALEF FINAL FORMa?MEEM FINAL FORMa5NOON WITH REH FINAL FORMa?ZAIN FINAL FO",
   "RMa?MEEM FINAL FORMa?NOON FINAL FORMa?ALEF MAKSURA FINAL FORMa?YEH FINAL FORMa5ALEF MAKSURA WITH",
   " SUPERSCRIPT ALEF FINAL FORMa5YEH WITH REH FINAL FORMa>ZAIN FINAL FORMa>MEEM FINAL FORMa>NOON FI",
   "NAL FORMa>ALEF MAKSURA FINAL FORMa>YEH FINAL FORMa>HAMZA ABOVE WITH JEEM INITIAL FORMaOHAH INITI",
   "AL FORMaOKHAH INITIAL FORMaOMEEM INITIAL FORMaOHEH INITIAL FORMa5BEH WITH JEEM INITIAL FORMa>HAH",
   " INITIAL FORMa>KHAH INITIAL FORMa>MEEM INITIAL FORMa>HEH INITIAL FORMa5TEH WITH JEEM INITIAL FOR",
   "Ma>HAH INITIAL FORMa>KHAH INITIAL FORMa>MEEM INITIAL FORMa>HEH INITIAL FORMa6HEH WITH MEEM INITI",
   "AL FORMa5JEEM WITH HAH INITIAL FORMa?MEEM INITIAL FORMa5HAH WITH JEEM INITIAL FORMa>MEEM INITIAL",
   " FORMa5KHAH WITH JEEM INITIAL FORMa?MEEM INITIAL FORMa5SEEN WITH JEEM INITIAL FORMa?HAH INITIAL ",
   "FORMa?KHAH INITIAL FORMa?MEEM INITIAL FORMa6AD WITH HAH INITIAL FORMa>KHAH INITIAL FORMa>MEEM IN",
   "ITIAL FORMa5DAD WITH JEEM INITIAL FORMa>HAH INITIAL FORMa>KHAH INITIAL FORMa>MEEM INITIAL FORMa5",
   "TAH WITH HAH INITIAL FORMa5ZAH WITH MEEM INITIAL FORMa5AIN WITH JEEM INITIAL FORMa>MEEM INITIAL ",
   "FORMa5GHAIN WITH JEEM INITIAL FORMa@MEEM INITIAL FORMa5FEH WITH JEEM INITIAL FORMa>HAH INITIAL F",
   "ORMa>KHAH INITIAL FORMa>MEEM INITIAL FORMa5QAF WITH HAH INITIAL FORMa>MEEM INITIAL FORMa5KAF WIT",
   "H JEEM INITIAL FORMa>HAH INITIAL FORMa>KHAH INITIAL FORMa>LAM INITIAL FORMa>MEEM INITIAL FORMa5L",
   "AM WITH JEEM INITIAL FORMa>HAH INITIAL FORMa>KHAH INITIAL FORMa>MEEM INITIAL FORMa>HEH INITIAL F",
   "ORMa5MEEM WITH JEEM INITIAL FORMa?HAH INITIAL FORMa?KHAH INITIAL FORMa?MEEM INITIAL FORMa5NOON W",
   "ITH JEEM INITIAL FORMa?HAH INITIAL FORMa?KHAH INITIAL FORMa?MEEM INITIAL FORMa?HEH INITIAL FORMa",
   "5HEH WITH JEEM INITIAL FORMa>MEEM INITIAL FORMa>SUPERSCRIPT ALEF INITIAL FORMa5YEH WITH JEEM INI",
   "TIAL FORMa>HAH INITIAL FORMa>KHAH INITIAL FORMa>MEEM INITIAL FORMa>HEH INITIAL FORMa?AMZA ABOVE ",
   "WITH MEEM MEDIAL FORMaOHEH MEDIAL FORMa5BEH WITH MEEM MEDIAL FORMa>HEH MEDIAL FORMa5TEH WITH MEE",
   "M MEDIAL FORMa>HEH MEDIAL FORMa6HEH WITH MEEM MEDIAL FORMa?HEH MEDIAL FORMa5SEEN WITH MEEM MEDIA",
   "L FORMa?HEH MEDIAL FORMa6HEEN WITH MEEM MEDIAL FORMa@HEH MEDIAL FORMa5KAF WITH LAM MEDIAL FORMa>",
   "MEEM MEDIAL FORMa5LAM WITH MEEM MEDIAL FORMa5NOON WITH MEEM MEDIAL FORMa?HEH MEDIAL FORMa5YEH WI",
   "TH MEEM MEDIAL FORMa>HEH MEDIAL FORMa5SHADDA WITH FATHA MEDIAL FORMaADAMMA MEDIAL FORMaAKASRA ME",
   "DIAL FORMa5TAH WITH ALEF MAKSURA ISOLATED FORMa>YEH ISOLATED FORMa5AIN WITH ALEF MAKSURA ISOLATE",
   "D FORMa>YEH ISOLATED FORMa5GHAIN WITH ALEF MAKSURA ISOLATED FORMa@YEH ISOLATED FORMa5SEEN WITH A",
   "LEF MAKSURA ISOLATED FORMa?YEH ISOLATED FORMa6HEEN WITH ALEF MAKSURA ISOLATED FORMa@YEH ISOLATED",
   " FORMa5HAH WITH ALEF MAKSURA ISOLATED FORMa>YEH ISOLATED FORMa5JEEM WITH ALEF MAKSURA ISOLATED F",
   "ORMa?YEH ISOLATED FORMa5KHAH WITH ALEF MAKSURA ISOLATED FORMa?YEH ISOLATED FORMa5SAD WITH ALEF M",
   "AKSURA ISOLATED FORMa>YEH ISOLATED FORMa5DAD WITH ALEF MAKSURA ISOLATED FORMa>YEH ISOLATED FORMa",
   "5SHEEN WITH JEEM ISOLATED FORMa@HAH ISOLATED FORMa@KHAH ISOLATED FORMa@MEEM ISOLATED FORMa@REH I",
   "SOLATED FORMa6EEN WITH REH ISOLATED FORMa6AD WITH REH ISOLATED FORMa5DAD WITH REH ISOLATED FORMa",
   "5TAH WITH ALEF MAKSURA FINAL FORMa>YEH FINAL FORMa5AIN WITH ALEF MAKSURA FINAL FORMa>YEH FINAL F",
   "ORMa5GHAIN WITH ALEF MAKSURA FINAL FORMa@YEH FINAL FORMa5SEEN WITH ALEF MAKSURA FINAL FORMa?YEH ",
   "FINAL FORMa6HEEN WITH ALEF MAKSURA FINAL FORMa@YEH FINAL FORMa5HAH WITH ALEF MAKSURA FINAL FORMa",
   ">YEH FINAL FORMa5JEEM WITH ALEF MAKSURA FINAL FORMa?YEH FINAL FORMa5KHAH WITH ALEF MAKSURA FINAL",
   " FORMa?YEH FINAL FORMa5SAD WITH ALEF MAKSURA FINAL FORMa>YEH FINAL FORMa5DAD WITH ALEF MAKSURA F",
   "INAL FORMa>YEH FINAL FORMa5SHEEN WITH JEEM FINAL FORMa@HAH FINAL FORMa@KHAH FINAL FORMa@MEEM FIN",
   "AL FORMa@REH FINAL FORMa6EEN WITH REH FINAL FORMa6AD WITH REH FINAL FORMa5DAD WITH REH FINAL FOR",
   "Ma5SHEEN WITH JEEM INITIAL FORMa@HAH INITIAL FORMa@KHAH INITIAL FORMa@MEEM INITIAL FORMa6EEN WIT",
   "H HEH INITIAL FORMa6HEEN WITH HEH INITIAL FORMa5TAH WITH MEEM INITIAL FORMa5SEEN WITH JEEM MEDIA",
   "L FORMa?HAH MEDIAL FORMa?KHAH MEDIAL FORMa6HEEN WITH JEEM MEDIAL FORMa@HAH MEDIAL FORMa@KHAH MED",
   "IAL FORMa5TAH WITH MEEM MEDIAL FORMa5ZAH WITH MEEM MEDIAL FORMa5ALEF WITH FATHATAN FINAL FORMaHI",
   "SOLATED FORMa!ORNATE LEFT PARENTHESISa*RIGHT PARENTHESISa!ARABIC LIGATURE RAHIMAHU ALLAAHa7DI AL",
   "LAAHU ANHaEAAaEUMaGAAaFNNAa5SALLALLAAHU ALAYHI WA-AALIHa5ALAYHI AS-SALAAMa;M AS-SALAAMa<AA AS-SA",
   "LAAMa; AS-SALAATU WAS-SALAAMa5QUDDISA SIRRAHa5SALLALLAHU ALAYHI WAAALIHEE WA-SALLAMa5ALAYHAA AS-",
   "SALAAMa5TABAARAKA WA-TAAALAAa5RAHIMAHUM ALLAAHa5TEH WITH JEEM WITH MEEM INITIAL FORMa>HAH WITH J",
   "EEM FINAL FORMaLINITIAL FORMaGMEEM INITIAL FORMa>KHAH WITH MEEM INITIAL FORMa>MEEM WITH JEEM INI",
   "TIAL FORMaHHAH INITIAL FORMaHKHAH INITIAL FORMa5JEEM WITH MEEM WITH HAH FINAL FORMaMINITIAL FORM",
   "a5HAH WITH MEEM WITH YEH FINAL FORMaHALEF MAKSURA FINAL FORMa5SEEN WITH HAH WITH JEEM INITIAL FO",
   "RMa?JEEM WITH HAH INITIAL FORMaIALEF MAKSURA FINAL FORMa?MEEM WITH HAH FINAL FORMaMINITIAL FORMa",
   "IJEEM INITIAL FORMaIMEEM FINAL FORMaNINITIAL FORMa6AD WITH HAH WITH HAH FINAL FORMaKINITIAL FORM",
   "a>MEEM WITH MEEM FINAL FORMa6HEEN WITH HAH WITH MEEM FINAL FORMaNINITIAL FORMa@JEEM WITH YEH FIN",
   "AL FORMa@MEEM WITH KHAH FINAL FORMaOINITIAL FORMaJMEEM FINAL FORMaOINITIAL FORMa5DAD WITH HAH WI",
   "TH ALEF MAKSURA FINAL FORMa>KHAH WITH MEEM FINAL FORMaMINITIAL FORMa5TAH WITH MEEM WITH HAH FINA",
   "L FORMaLINITIAL FORMaHMEEM INITIAL FORMaHYEH FINAL FORMa5AIN WITH JEEM WITH MEEM FINAL FORMa>MEE",
   "M WITH MEEM FINAL FORMaMINITIAL FORMaHALEF MAKSURA FINAL FORMa5GHAIN WITH MEEM WITH MEEM FINAL F",
   "ORMaJYEH FINAL FORMaJALEF MAKSURA FINAL FORMa5FEH WITH KHAH WITH MEEM FINAL FORMaMINITIAL FORMa5",
   "QAF WITH MEEM WITH HAH FINAL FORMaHMEEM FINAL FORMa5LAM WITH HAH WITH MEEM FINAL FORMaGYEH FINAL",
   " FORMaGALEF MAKSURA FINAL FORMa>JEEM WITH JEEM INITIAL FORMaMFINAL FORMa>KHAH WITH MEEM FINAL FO",
   "RMaMINITIAL FORMa>MEEM WITH HAH FINAL FORMaLINITIAL FORMa5MEEM WITH HAH WITH JEEM INITIAL FORMaH",
   "MEEM INITIAL FORMaHYEH FINAL FORMa?JEEM WITH HAH INITIAL FORMaIMEEM INITIAL FORMa?KHAH WITH JEEM",
   " INITIAL FORMaIMEEM INITIAL FORMc?JEEM WITH KHAH INITIAL FORMa5HEH WITH MEEM WITH JEEM INITIAL F",
   "ORMaHMEEM INITIAL FORMa5NOON WITH HAH WITH MEEM INITIAL FORMaHALEF MAKSURA FINAL FORMa?JEEM WITH",
   " MEEM FINAL FORMaNINITIAL FORMaIALEF MAKSURA FINAL FORMa?MEEM WITH YEH FINAL FORMaIALEF MAKSURA ",
   "FINAL FORMa5YEH WITH MEEM WITH MEEM FINAL FORMaMINITIAL FORMa5BEH WITH KHAH WITH YEH FINAL FORMa",
   "5TEH WITH JEEM WITH YEH FINAL FORMaHALEF MAKSURA FINAL FORMa>KHAH WITH YEH FINAL FORMaHALEF MAKS",
   "URA FINAL FORMa>MEEM WITH YEH FINAL FORMaHALEF MAKSURA FINAL FORMa5JEEM WITH MEEM WITH YEH FINAL",
   " FORMa?HAH WITH ALEF MAKSURA FINAL FORMa?MEEM WITH ALEF MAKSURA FINAL FORMa5SEEN WITH KHAH WITH ",
   "ALEF MAKSURA FINAL FORMa6AD WITH HAH WITH YEH FINAL FORMa6HEEN WITH HAH WITH YEH FINAL FORMa5DAD",
   " WITH HAH WITH YEH FINAL FORMa5LAM WITH JEEM WITH YEH FINAL FORMa>MEEM WITH YEH FINAL FORMa5YEH ",
   "WITH HAH WITH YEH FINAL FORMa>JEEM WITH YEH FINAL FORMa>MEEM WITH YEH FINAL FORMa5MEEM WITH MEEM",
   " WITH YEH FINAL FORMa5QAF WITH MEEM WITH YEH FINAL FORMa5NOON WITH HAH WITH YEH FINAL FORMa5QAF ",
   "WITH MEEM WITH HAH INITIAL FORMa5LAM WITH HAH WITH MEEM INITIAL FORMa5AIN WITH MEEM WITH YEH FIN",
   "AL FORMa5KAF WITH MEEM WITH YEH FINAL FORMa5NOON WITH JEEM WITH HAH INITIAL FORMa5MEEM WITH KHAH",
   " WITH YEH FINAL FORMa5LAM WITH JEEM WITH MEEM INITIAL FORMa5KAF WITH MEEM WITH MEEM FINAL FORMa5",
   "LAM WITH JEEM WITH MEEM FINAL FORMa5NOON WITH JEEM WITH HAH FINAL FORMa5JEEM WITH HAH WITH YEH F",
   "INAL FORMa5HAH WITH JEEM WITH YEH FINAL FORMa5MEEM WITH JEEM WITH YEH FINAL FORMa5FEH WITH MEEM ",
   "WITH YEH FINAL FORMa5BEH WITH HAH WITH YEH FINAL FORMa5KAF WITH MEEM WITH MEEM INITIAL FORMa5AIN",
   " WITH JEEM WITH MEEM INITIAL FORMa5SAD WITH MEEM WITH MEEM INITIAL FORMa6EEN WITH KHAH WITH YEH ",
   "FINAL FORMa5NOON WITH JEEM WITH YEH FINAL FORMh5SALAAMUHU ALAYNAA!33!8LA USED AS KORANIC STOP SI",
   "GN ISOLATED FORMa5QALA USED AS KORANIC STOP SIGN ISOLATED FORMa5ALLAH ISOLATED FORMa6KBAR ISOLAT",
   "ED FORMa5MOHAMMAD ISOLATED FORMa5SALAM ISOLATED FORMa5RASOUL ISOLATED FORMa5ALAYHE ISOLATED FORM",
   "a5WASALLAM ISOLATED FORMa5SALLA ISOLATED FORMa:LLAHOU ALAYHE WASALLAMa5JALLAJALALOUHOUa!RIAL SIG",
   "Na!ARABIC LIGATURE BISMILLAH AR-RAHMAN AR-RAHEEMa5SUBHAANAHU WA TAAALAAa5AZZA WA JALLa!VARIATION",
   " SELECTOR-1a82a83a84a85a86a87a88a89a810a91a92a93a94a95a96a!PRESENTATION FORM FOR VERTICAL COMMAa",
   "DIDEOGRAPHIC COMMAaPFULL STOPaDCOLONaDSEMICOLONaDEXCLAMATION MARKaDQUESTION MARKaDLEFT WHITE LEN",
   "TICULAR BRACKETaDRIGHT WHITE LENTICULAR BRAKCET!0!_CKETaDHORIZONTAL ELLIPSISg!COMBINING LIGATURE",
   " LEFT HALFa8RIGHT HALFa.DOUBLE TILDE LEFT HALFa<RIGHT HALFa.MACRON LEFT HALFa6RIGHT HALFa.CONJOI",
   "NING MACRONa.LIGATURE LEFT HALF BELOWa8RIGHT HALF BELOWa.TILDE LEFT HALF BELOWa5RIGHT HALF BELOW",
   "a.MACRON LEFT HALF BELOWa6RIGHT HALF BELOWa.CONJOINING MACRON BELOWa0YRILLIC TITLO LEFT HALFa>RI",
   "GHT HALFa!PRESENTATION FORM FOR VERTICAL TWO DOT LEADERaDEM DASHaEN DASHaDLOW LINEaDWAVY LOW LIN",
   "EaDLEFT PARENTHESISaDRIGHT PARENTHESISaDLEFT CURLY BRACKETaDRIGHT CURLY BRACKETaDLEFT TORTOISE S",
   "HELL BRACKETaDRIGHT TORTOISE SHELL BRACKETaDLEFT BLACK LENTICULAR BRACKETaDRIGHT BLACK LENTICULA",
   "R BRACKETaDLEFT DOUBLE ANGLE BRACKETaDRIGHT DOUBLE ANGLE BRACKETaDLEFT ANGLE BRACKETaDRIGHT ANGL",
   "E BRACKETaDLEFT CORNER BRACKETaDRIGHT CORNER BRACKETaDLEFT WHITE CORNER BRACKETaDRIGHT WHITE COR",
   "NER BRACKETa!SESAME DOTa!WHITE SESAME DOTa!PRESENTATION FORM FOR VERTICAL LEFT SQUARE BRACKETaDR",
   "IGHT SQUARE BRACKETa!DASHED OVERLINEa!CENTRELINE OVERLINEa!WAVY OVERLINEa!DOUBLE WAVY OVERLINEa#",
   "ASHED LOW LINEa!CENTRELINE LOW LINEa!WAVY LOW LINEa!SMALL COMMAa)IDEOGRAPHIC COMMAa)FULL STOPb)S",
   "EMICOLONa)COLONa)QUESTION MARKa)EXCLAMATION MARKa*M DASHa)LEFT PARENTHESISa)RIGHT PARENTHESISa)L",
   "EFT CURLY BRACKETa)RIGHT CURLY BRACKETa)LEFT TORTOISE SHELL BRACKETa)RIGHT TORTOISE SHELL BRACKE",
   "Ta)NUMBER SIGNa)AMPERSANDa*STERISKa)PLUS SIGNa)HYPHEN-MINUSa)LESS-THAN SIGNa)GREATER-THAN SIGNa)",
   "EQUALS SIGNb)REVERSE SOLIDUSa)DOLLAR SIGNa)PERCENT SIGNa)COMMERCIAL ATe!ARABIC FATHATAN ISOLATED",
   " FORMa*TATWEEL WITH FATHATAN ABOVEa*DAMMATAN ISOLATED FORMa*TAIL FRAGMENTa*KASRATAN ISOLATED FOR",
   "Mb*FATHA ISOLATED FORMa2MEDIAL FORMa*DAMMA ISOLATED FORMa2MEDIAL FORMa*KASRA ISOLATED FORMa2MEDI",
   "AL FORMa*SHADDA ISOLATED FORMa3MEDIAL FORMa+UKUN ISOLATED FORMa2MEDIAL FORMa*LETTER HAMZA ISOLAT",
   "ED FORMa3ALEF WITH MADDA ABOVE ISOLATED FORMaIFINAL FORMa=HAMZA ABOVE ISOLATED FORMaIFINAL FORMa",
   "3WAW WITH HAMZA ABOVE ISOLATED FORMaHFINAL FORMa3ALEF WITH HAMZA BELOW ISOLATED FORMaIFINAL FORM",
   "a3YEH WITH HAMZA ABOVE ISOLATED FORMaHFINAL FORMaHINITIAL FORMaHMEDIAL FORMa3ALEF ISOLATED FORMa",
   "8FINAL FORMa3BEH ISOLATED FORMa7FINAL FORMa7INITIAL FORMa7MEDIAL FORMa3TEH MARBUTA ISOLATED FORM",
   "a?FINAL FORMa7ISOLATED FORMa7FINAL FORMa7INITIAL FORMa7MEDIAL FORMa4HEH ISOLATED FORMa8FINAL FOR",
   "Ma8INITIAL FORMa8MEDIAL FORMa3JEEM ISOLATED FORMa8FINAL FORMa8INITIAL FORMa8MEDIAL FORMa3HAH ISO",
   "LATED FORMa7FINAL FORMa7INITIAL FORMa7MEDIAL FORMa3KHAH ISOLATED FORMa8FINAL FORMa8INITIAL FORMa",
   "8MEDIAL FORMa3DAL ISOLATED FORMa7FINAL FORMa3THAL ISOLATED FORMa8FINAL FORMa3REH ISOLATED FORMa7",
   "FINAL FORMa3ZAIN ISOLATED FORMa8FINAL FORMa3SEEN ISOLATED FORMa8FINAL FORMa8INITIAL FORMa8MEDIAL",
   " FORMa4HEEN ISOLATED FORMa9FINAL FORMa9INITIAL FORMa9MEDIAL FORMa4AD ISOLATED FORMa7FINAL FORMa7",
   "INITIAL FORMa7MEDIAL FORMa3DAD ISOLATED FORMa7FINAL FORMa7INITIAL FORMa7MEDIAL FORMa3TAH ISOLATE",
   "D FORMa7FINAL FORMa7INITIAL FORMa7MEDIAL FORMa3ZAH ISOLATED FORMa7FINAL FORMa7INITIAL FORMa7MEDI",
   "AL FORMa3AIN ISOLATED FORMa7FINAL FORMa7INITIAL FORMa7MEDIAL FORMa3GHAIN ISOLATED FORMa9FINAL FO",
   "RMa9INITIAL FORMa9MEDIAL FORMa3FEH ISOLATED FORMa7FINAL FORMa7INITIAL FORMa7MEDIAL FORMa3QAF ISO",
   "LATED FORMa7FINAL FORMa7INITIAL FORMa7MEDIAL FORMa3KAF ISOLATED FORMa7FINAL FORMa7INITIAL FORMa7",
   "MEDIAL FORMa3LAM ISOLATED FORMa7FINAL FORMa7INITIAL FORMa7MEDIAL FORMa3MEEM ISOLATED FORMa8FINAL",
   " FORMa8INITIAL FORMa8MEDIAL FORMa3NOON ISOLATED FORMa8FINAL FORMa8INITIAL FORMa8MEDIAL FORMa3HEH",
   " ISOLATED FORMa7FINAL FORMa7INITIAL FORMa7MEDIAL FORMa3WAW ISOLATED FORMa7FINAL FORMa3ALEF MAKSU",
   "RA ISOLATED FORMa@FINAL FORMa3YEH ISOLATED FORMa7FINAL FORMa7INITIAL FORMa7MEDIAL FORMa+IGATURE ",
   "LAM WITH ALEF WITH MADDA ABOVE ISOLATED FORMaTFINAL FORMaHHAMZA ABOVE ISOLATED FORMaTFINAL FORMa",
   "NBELOW ISOLATED FORMaTFINAL FORMaCISOLATED FORMaCFINAL FORMc!ZERO WIDTH NO-BREAK SPACE!0!!BYTE O",
   "RDER MARKb!FULLWIDTH EXCLAMATION MARKa.QUOTATION MARKa.NUMBER SIGNa.DOLLAR SIGNa.PERCENT SIGNa.A",
   "MPERSANDa0POSTROPHEa.LEFT PARENTHESISa.RIGHT PARENTHESISa.ASTERISKa.PLUS SIGNa.COMMAa.HYPHEN-MIN",
   "USa.FULL STOPa.SOLIDUSa.DIGIT ZEROa5ONEa5TWOa6HREEa5FOURa6IVEa5SIXa6EVENa5EIGHTa5NINEa.COLONa.SE",
   "MICOLONa.LESS-THAN SIGNa.EQUALS SIGNa.GREATER-THAN SIGNa.QUESTION MARKa.COMMERCIAL ATa.LATIN CAP",
   "ITAL LETTER AaDBaDCaDDaDEaDFaDGaDHaDIaDJaDKaDLaDMaDNaDOaDPaDQaDRaDSaDTaDUaDVaDWaDXaDYaDZa0EFT SQ",
   "UARE BRACKETa.REVERSE SOLIDUSa0IGHT SQUARE BRACKETa.CIRCUMFLEX ACCENTa.LOW LINEa.GRAVE ACCENTa.L",
   "ATIN SMALL LETTER AaBBaBCaBDaBEaBFaBGaBHaBIaBJaBKaBLaBMaBNaBOaBPaBQaBRaBSaBTaBUaBVaBWaBXaBYaBZa0",
   "EFT CURLY BRACKETa.VERTICAL LINEa.RIGHT CURLY BRACKETa.TILDEa.LEFT WHITE PARENTHESISa.RIGHT WHIT",
   "E PARENTHESISa!HALFWIDTH IDEOGRAPHIC FULL STOPa.LEFT CORNER BRACKETa.RIGHT CORNER BRACKETa.IDEOG",
   "RAPHIC COMMAa.KATAKANA MIDDLE DOTa8LETTER WOa?SMALL AaEIaEUaEEaEOaEYAaFUaFOaETUa7-HIRAGANA PROLO",
   "NGED SOUND MARKa7 LETTER Aa?Ia?Ua?Ea?Oa?KAa@Ia@Ua@Ea@Oa?SAa@Ia@Ua@Ea@Oa?TAa@Ia@Ua@Ea@Oa?NAa@Ia@U",
   "a@Ea@Oa?HAa@Ia@Ua@Ea@Oa?MAa@Ia@Ua@Ea@Oa?YAa@Ua@Oa?RAa@Ia@Ua@Ea@Oa?WAa?Na8VOICED SOUND MARKa8SEMI",
   "-VOICED SOUND MARKa.HANGUL FILLERa6LETTER KIYEOKa=SSANGKIYEOKa=KIYEOK-SIOSa=NIEUNaB-CIEUCaCHIEUH",
   "a=TIKEUTa=SSANGTIKEUTa=RIEULaB-KIYEOKaCMIEUMaCPIEUPaCSIOSaCTHIEUTHaCPHIEUPHaCHIEUHa=MIEUMa=PIEUP",
   "a=SSANGPIEUPa=PIEUP-SIOSa=SIOSa>SANGSIOSa=IEUNGa=CIEUCa=SSANGCIEUCa=CHIEUCHa=KHIEUKHa=THIEUTHa=P",
   "HIEUPHa=HIEUHd=Aa>Ea=YAa?Ea=EOa=Ec=YEOa>Ea=Oa=WAa?Ea=OEc=YOa=Ua=WEOa>Ea>Ia=YUc=EUa=YIa=Id!FULLWI",
   "DTH CENT SIGNa.POUND SIGNa.NOT SIGNa.MACRONa.BROKEN BARa.YEN SIGNa.WON SIGNb!HALFWIDTH FORMS LIG",
   "HT VERTICALa.LEFTWARDS ARROWa.UPWARDS ARROWa.RIGHTWARDS ARROWa.DOWNWARDS ARROWa.BLACK SQUAREa.WH",
   "ITE CIRCLEk!INTERLINEAR ANNOTATION ANCHORa<SEPARATORa<TERMINATORa!OBJECT REPLACEMENT CHARACTERa!",
   "REPLACEMENT CHARACTERc!LINEAR B SYLLABLE B008 Aa938 Ea928 Ia961 Oa910 Ua901 DAa945 DEa907 DIa914",
   " DOa951 DUa:7 JAa946 JEb936 JOa965 JUa977 KAa944 KEa967 KIa970 KOa981 KUa:0 MAa913 MEa973 MIa915",
   " MOa923 MUa906 NAa924 NEa930 NIa952 NOa:5 NUa903 PAa972 PEa939 PIa911 POa950 PUa916 QAa978 QEa92",
   "1 QIa932 QOb960 RAa927 REa953 RIa902 ROa926 RUa931 SAa909 SEa941 SIa912 SOa958 SUa:9 TAa904 TEa9",
   "37 TIa905 TOa969 TUa954 WAa975 WEa940 WIa:2 WOb917 ZAa974 ZEb920 ZOa:5 A2a943 A3a985 AUa971 DWEa",
   "990 DWOa948 NWAa929 PU2a962 PTEa976 RA2a933 RA3a968 RO2a:6 TA2a987 TWEa991 TWOc0MBOL B018a89a722",
   "a734a747a89a756a763a84a779a782a83a86a89!35!,IDEOGRAM B100 MANa:2 WOMANa:4 DEERa:5 EQUIDa;F MAREa",
   ";M STALLIONa:6F EWEa;M RAMa:7F SHE-GOATa;M HE-GOATa:8F SOWa;M BOARa:9F COWa;M BULLa920 WHEATa:1 ",
   "BARLEYa:2 OLIVEa:3 SPICEa:5 CYPERUSa,MONOGRAM B127 KAPOa:8 KANAKOa,IDEOGRAM B130 OILa:1 WINEa:2a",
   ",MONOGRAM B133 AREPAa:5 MERIa,IDEOGRAM B140 BRONZEa:1 GOLDa:2a:5 WOOLa:6a950a:1 HORNa:2a:3a:4a,M",
   "ONOGRAM B156 TURO2a,IDEOGRAM B157a:8a:9 CLOTHa960a:1a:2 GARMENTa:3 ARMOURa:4a:5a:6a:7a:8a:9a970a",
   ":1a:2a:3 MONTHa:4a:6 TREEa:7a:8a:9a980a:1a:2a:3a:4a:5a:9a990a:1 HELMETa8220 FOOTSTOOLa:5 BATHTUB",
   "a930 SPEARa:1 ARROWa:2a:3 SWORDa:4a:6a940 WHEELED CHARIOTa:1 CHARIOTa:2 CHARIOT FRAMEa:3 WHEELa:",
   "5a:6a,MONOGRAM B247 DIPTEa,IDEOGRAM B248a:9a951a:2a:3a:4 DARTa:5a:6a:7a:8a:9a7VESSEL B155a?200aA",
   "1aA2aA3aA4aA5aA6aA7aA8aA9a@10aA1aA2aA3aA4aA5aA6aA7aA8aA9a@21aA2aA6aA7aA8aA9a@50a?305f!AEGEAN WOR",
   "D SEPARATOR LINEa;DOTa*CHECK MARKe*NUMBER ONEa3TWOa4HREEa3FOURa4IVEa3SIXa4EVENa3EIGHTa3NINEa3TEN",
   "a4WENTYa4HIRTYa3FORTYa4IFTYa3SIXTYa4EVENTYa3EIGHTYa3NINETYa3ONE HUNDREDa3TWO HUNDREDa4HREE HUNDR",
   "EDa3FOUR HUNDREDa4IVE HUNDREDa3SIX HUNDREDa4EVEN HUNDREDa3EIGHT HUNDREDa3NINE HUNDREDa3ONE THOUS",
   "ANDa3TWO THOUSANDa4HREE THOUSANDa3FOUR THOUSANDa4IVE THOUSANDa3SIX THOUSANDa4EVEN THOUSANDa3EIGH",
   "T THOUSANDa3NINE THOUSANDa3TEN THOUSANDa4WENTY THOUSANDa4HIRTY THOUSANDa3FORTY THOUSANDa4IFTY TH",
   "OUSANDa3SIXTY THOUSANDa4EVENTY THOUSANDa3EIGHTY THOUSANDa3NINETY THOUSANDd*WEIGHT BASE UNITa3FIR",
   "ST SUBUNITa3SECOND SUBUNITa3THIRD SUBUNITa3FOURTH SUBUNITa*DRY MEASURE FIRST SUBUNITa*LIQUID MEA",
   "SURE FIRST SUBUNITa*MEASURE SECOND SUBUNITa4THIRD SUBUNITa!GREEK ACROPHONIC ATTIC ONE QUARTERa@H",
   "ALFa@DRACHMAa<FIVEa>FTYa>VE HUNDREDaATHOUSANDa>FTY THOUSANDa>VE TALENTSa<TEN TALENTSa<FIFTY TALE",
   "NTSa<ONE HUNDRED TALENTSa<FIVE HUNDRED TALENTSa<ONE THOUSAND TALENTSa<FIVE THOUSAND TALENTSaASTA",
   "TERSa<TEN STATERSa<FIFTY STATERSa<ONE HUNDRED STATERSa<FIVE HUNDRED STATERSa<ONE THOUSAND STATER",
   "Sa<TEN THOUSAND STATERSa<FIFTY THOUSAND STATERSa<TEN MNASa6HERAEUM ONE PLETHRONa6THESPIAN ONEa6H",
   "ERMIONIAN ONEa6EPIDAUREAN TWOa6THESPIAN TWOa6CYRENAIC TWO DRACHMASa6EPIDAUREAN TWO DRACHMASa6TRO",
   "EZENIAN FIVEaATENaD ALTERNATE FORMa6HERMIONIAN TENa6MESSENIAN TENa6THESPIAN TENa@HIRTYa7ROEZENIA",
   "N FIFTYaF ALTERNATE FORMa6HERMIONIAN FIFTYa6THESPIAN FIFTYa?ONE HUNDREDa?THREE HUNDREDa6EPIDAURE",
   "AN FIVE HUNDREDa6TROEZENIAN FIVE HUNDREDa7HESPIAN FIVE HUNDREDa6CARYSTIAN FIVE HUNDREDa6NAXIAN F",
   "IVE HUNDREDa6THESPIAN ONE THOUSANDa?FIVE THOUSANDa6DELPHIC FIVE MNASa6STRATIAN FIFTY MNASa)ONE H",
   "ALF SIGNa8 ALTERNATE FORMa)TWO THIRDS SIGNa*HREE QUARTERS SIGNa)YEAR SIGNa)TALENT SIGNa)DRACHMA ",
   "SIGNa)OBOL SIGNa)TWO OBOLS SIGNa*HREE OBOLS SIGNa)FOUR OBOLS SIGNa*IVE OBOLS SIGNa)METRETES SIGN",
   "a)KYATHOS BASE SIGNa)LITRA SIGNa)OUNKIA SIGNa)XESTES SIGNa)ARTABE SIGNa+OURA SIGNa)GRAMMA SIGNa)",
   "TRYBLION BASE SIGNa)ZERO SIGNa)ONE QUARTER SIGNa)SINUSOID SIGNa)INDICTION SIGNa!NOMISMA SIGNb!RO",
   "MAN SEXTANS SIGNa)UNCIA SIGNa)SEMUNCIA SIGNa+XTULA SIGNa)DIMIDIA SEXTULA SIGNa)SILIQUA SIGNa)DEN",
   "ARIUS SIGNa)QUINARIUS SIGNa)SESTERTIUS SIGNa)DUPONDIUS SIGNa)AS SIGNa)CENTURIAL SIGNa!ASCIA SYMB",
   "OLd!GREEK SYMBOL TAU RHO!48!!PHAISTOS DISC SIGN PEDESTRIANa9LUMED HEADa8TATTOOED HEADa8CAPTIVEa9",
   "HILDa8WOMANa8HELMETa8GAUNTLETa8TIARAa8ARROWa8BOWa8SHIELDa8CLUBa8MANACLESa:TTOCKa8SAWa8LIDa8BOOME",
   "RANGa8CARPENTRY PLANEa8DOLIUMa8COMBa8SLINGa8COLUMNa8BEEHIVEa8SHIPa8HORNa9IDEa8BULLS LEGa8CATa8RA",
   "Ma8EAGLEa8DOVEa8TUNNYa8BEEa8PLANE TREEa8VINEa8PAPYRUSa8ROSETTEa8LILYa8OX BACKa8FLUTEa8GRATERa8ST",
   "RAINERa9MALL AXEa8WAVY BANDa8COMBINING OBLIQUE STROKE!131!!LYCIAN LETTER Aa3Ea3Ba4Ha3Ga3Da3Ia3Wa",
   "3Za3THa3Ja3Ka3Qa3La3Ma3Na3MMa3NNa3Ua3Pa3KKa3Ra3Sa3Ta4Ta3ANa3ENa3Ha3Xd!CARIAN LETTER Aa3P2a3Da3La",
   "3UUUa3Ra3LDa3A2a3Qa3Ba3Ma3Oa3D2a3Ta3SHa52a3Sa3C-18a3Ua3NNa3Xa3Na3TT2a3Pa3SSa3Ia3Ea3UUUUa3Ka42a3N",
   "Da3UUa3Ga42a3STa52a3NGa3IIa3C-39a3TTa3UUU2a3RRa3MBa52a53a54a3LD2a3E2a3UUU3p#OPTIC EPACT THOUSAND",
   "S MARKa2DIGIT ONEa8TWOa9HREEa8FOURa9IVEa8SIXa9EVENa8EIGHTa8NINEa2NUMBER TENa:WENTYa:HIRTYa9FORTY",
   "a:IFTYa9SIXTYa:EVENTYa9EIGHTYa9NINETYa9ONE HUNDREDa9TWO HUNDREDa:HREE HUNDREDa9FOUR HUNDREDa:IVE",
   " HUNDREDa9SIX HUNDREDa:EVEN HUNDREDa9EIGHT HUNDREDa9NINE HUNDREDe!OLD ITALIC LETTER Aa7BEa7KEa7D",
   "Ea7Ea7VEa7ZEa7HEa7THEa7Ia7KAa7ELa8Ma8Na8SHa7Oa7PEa7SHEa7KUa7ERa8Sa7TEa7Ua7EKSa7PHEa7KHEa7EFa8RSa",
   "7CHEa7IIa7UUa7ESSa0NUMERAL ONEa8FIVEa8TENa8FIFTYj0LETTER YEa7NORTHERN TSEa7SOUTHERN TSEa!GOTHIC ",
   "LETTER AHSAa3BAIRKANa3GIBAa3DAGSa3AIHVUSa3QAIRTHRAa3IUJAa3HAGLa3THIUTHa3EISa3KUSMAa3LAGUSa3MANNA",
   "a3NAUTHSa3JERa3URUSa3PAIRTHRAa3NINETYa3RAIDAa3SAUILa3TEIWSa3WINJAa3FAIHUa3IGGWSa3HWAIRa3OTHALa3N",
   "INE HUNDREDf!OLD PERMIC LETTER ANa7BURa7GAIa7DOIa7Ea7ZHOIa7DZHOIa7ZATAa7DZITAa7Ia7KOKEa7LEIa7MEN",
   "OEa7NENOEa7VOOIa7PEEIa7REIa7SIIa7TAIa7Ua7CHERYa7SHOOIa9CHOOIa7YRYa8ERUa7Oa8Oa7EFa7HAa7TSIUa7VERa",
   "7YERa:Ia8ATa7IEa7YUa8Aa7IAa!COMBINING OLD PERMIC LETTER ANaADOIaAZATAaANENOEaASIIf!UGARITIC LETT",
   "ER ALPAa5BETAa5GAMLAa5KHAa5DELTAa5HOa5WOa5ZETAa5HOTAa5TETa5YODa5KAFa5SHINa5LAMDAa5MEMa5DHALa5NUN",
   "a5ZUa5SAMKAa5AINa5PUa5SADEa5QOPAa5RASHAa5THANNAa5GHAINa5TOa5Ia5Ua5SSUb,WORD DIVIDERa!OLD PERSIAN",
   " SIGN Aa6Ia6Ua6KAa7Ua6GAa7Ua6XAa6CAa6JAa7Ia6TAa7Ua6DAa7Ia7Ua6THAa6PAa6BAa6FAa6NAa7Ua6MAa7Ia7Ua6Y",
   "Aa6VAa7Ia6RAa7Ua6LAa6SAa6ZAa6SHAa7SAa6HAe6AURAMAZDAAa@-2a@HAa6XSHAAYATHIYAa6DAHYAAUSHa?-2a6BAGAa",
   "7UUMISHa1WORD DIVIDERa1NUMBER ONEa8TWOa9ENa9WENTYa8HUNDRED!43!!DESERET CAPITAL LETTER LONG IaAEa",
   "AAaBHaAOaBOa<SHORT IaBEaBAaCHaBOaCOa<AYa<OWa<WUa<YEEa<Ha<PEEa<BEEa<TEEa<DEEa<CHEEa<JEEa<KAYa<GAY",
   "a<EFa<VEEa<ETHa<THEEa<ESa<ZEEa<ESHa<ZHEEa<ERa=La=Ma=Na>Ga<OIa<EWa+SMALL LETTER LONG Ia?Ea?Aa@Ha?",
   "Oa@Oa:SHORT Ia@Ea@AaAHa@OaAOa:AYa:OWa:WUa:YEEa:Ha:PEEa:BEEa:TEEa:DEEa:CHEEa:JEEa:KAYa:GAYa:EFa:V",
   "EEa:ETHa:THEEa:ESa:ZEEa:ESHa:ZHEEa:ERa;La;Ma;Na<Ga:OIa:EWa!SHAVIAN LETTER PEEPa4TOTa4KICKa4FEEa4",
   "THIGHa4SOa5UREa4CHURCHa4YEAa4HUNGa4BIBa4DEADa4GAGa4VOWa4THEYa4ZOOa4MEASUREa4JUDGEa4WOEa4HA-HAa4L",
   "OLLa4MIMEa4IFa4EGGa4ASHa5DOa4ONa4WOOLa4OUTa4AHa4ROARa4NUNa4EATa4AGEa4ICEa4UPa4OAKa5OZEa5ILa4AWEa",
   "5REa4ORa4AIRa4ERRa4ARRAYa4EARa4IANa4YEWa!OSMANYA LETTER ALEFa4BAa4TAa4JAa4XAa4KHAa4DEELa4RAa4SAa",
   "5HIINa4DHAa4CAYNa4GAa4FAa4QAAFa4KAAFa4LAANa4MIINa4NUUNa4WAWa4HAa4YAa4Aa4Ea4Ia4Oa4Ua4AAa4EEa4OOc+",
   "DIGIT ZEROa3ONEa3TWOa4HREEa3FOURa4IVEa3SIXa4EVENa3EIGHTa3NINEg$AGE CAPITAL LETTER Aa;Ia<Na;Ha:BR",
   "Aa:CHAa:EHCHAa:Ea;INa:HAa;YAa:Ia:KAa:EHKAa:KYAa:LAa:MAa:NAa:Oa;INa:PAa:EHPAa:SAa;HAa:TAa:EHTAa:T",
   "SAa:EHTSAa:TSHAa:DHAa:Ua:WAa:KHAa:GHAa:ZAa;HAe)SMALL LETTER Aa9Ia:Na9Ha8BRAa8CHAa8EHCHAa8Ea9INa8",
   "HAa9YAa8Ia8KAa8EHKAa8KYAa8LAa8MAa8NAa8Oa9INa8PAa8EHPAa8SAa9HAa8TAa8EHTAa8TSAa8EHTSAa8TSHAa8DHAa8",
   "Ua8WAa8KHAa8GHAa8ZAa9HAe!ELBASAN LETTER Aa4BEa4CEa5HEa4DEa4NDEa4DHEa4EIa4Ea4FEa4GEa5JEa4HEa4Ia4J",
   "Ea4KEa4LEa5LEa4MEa4NEa5Aa5JEa4Oa4PEa4QEa4REa5REa4SEa5HEa4TEa5HEa4Ua4VEa4XEa4Ya4ZEa5HEa4GHEa6AMMA",
   "a4KHEi!CAUCASIAN ALBANIAN LETTER ALTa?BETa?GIMa?DATa?EBa?ZARLa?EYNa?ZHILa?TASa?CHAa?YOWDa?ZHAa?I",
   "RBa?SHAa?LANa?INYAa?XEYNa?DYANa?CARa?JHOXa?KARa?LYITa?HEYTa?QAYa?AORa?CHOYaAIa@YAYa?MAQa?QARa?NO",
   "WCa?DZYAYa?SHAKa?JAYNa?ONa?TYAYa?FAMa?DZAYa?CHATa?PENa?GHEYSa?RATa?SEYKa?VEYZa?TIWRa?SHOYa?IWNa?",
   "CYAWa@AYNa?YAYDa?PIWRa?KIWl8CITATION MARKa!VITHKUQI CAPITAL LETTER Aa=BBEa>Ea=CEa>HEa=DEa>HEa=EI",
   "a=Ea=FEa=GAb=HAa>HAa=Ia>JEa=JEa=KAa=LAa>LAa=MEa=NEa>JEa=Oa=PEa=QAa=REb=SEa>HEa=TEa>HEa=Ua=VEa=XE",
   "b=Ya=ZEb,SMALL LETTER Aa;BBEa<Ea;CEa<HEa;DEa<HEa;EIa;Ea;FEa;GAb;HAa<HAa;Ia<JEa;JEa;KAa;LAa<LAa;M",
   "Ea;NEa<JEa;Oa;PEa;QAa;REb;SEa<HEa;TEa<HEa;Ua;VEa;XEb;Ya;ZE!68!!LINEAR A SIGN AB001a72a73a74a75a7",
   "6a77a78a79a610a71a73a76a77a620a71a8Fa8Ma72a8Fa8Ma73a8Ma74a76a77a78a4028Ba4B029a630a71a74a77a78a7",
   "9a640a71a74a75a76a77a78a79a650a71a73a74a75a76a77a78a79a660a71a75a76a77a79a670a73a74a76a77a78a79a",
   "680a71a72a75a76a77a4100-102a4B118a620a4120Ba4B122a73a631Aa8Ba4131Ca4B164a671a680a78a691a4301a62a",
   "63a64a65a66a67a68a69Aa7Ba7Ca510a61a62a63Aa7Ba7Ca64a65a66a67a68a69a520a61a62a63a64a65a66a67a68a69",
   "a530a61a62a63a64a65a66a67a68a69a540a61a62a63a64a65a66a67a68a69a550a61a62a63a64a65a66a67a68a69a56",
   "0a61a62a63a64a65a66a67a68a69a570a61a4400-VASa61-VASa62-VASa63-VASa64-VASa65-VASa66-VASa67-VASa68",
   "-VASa69-VASa510-VASa61-VASa62-VASa63-VASa64-VASa65-VASa66-VASa67-VASa68-VASa4501a62a63a64a65a66a",
   "68a69a510a61a62a63a65a66a520a61a63a64a65a66a67a68a69a530a61a62a64a65a66a67a68a69a540a61a62a65a67",
   "a68a69a550a61a62a63a64a65a66a67a69a563a64a65a66a68a69a570a61a62a63a64a65a66a67a68a69a580a61a62a6",
   "3a64a65a66a67a68a69a591a62a64a65a66a68a4600a61a62a63a64a66a68a69a510a61a62a63a64a65a66a67a68a69a",
   "520a61a62a63a64a66a67a68a69a534a67a68a540a62a63a64a65a66a68a69a551a62a63a64a65a66a67a68a69a560a6",
   "1a62a63a64j4701 Aa62 Ba63 Da64 Ea65 Fa66 Ha67 Ja68 Ka69 La7-2 L2a83 L3a84 L4a86 L6a510 Wa61 Xa62",
   " Ya63 OMEGAa64 ABBa65 BBa67 DDa526 EYYYa532 JEk4800a61a62a63a64a65a66a67y!MODIFIER LETTER SMALL ",
   "CAPITAL AAa6UPERSCRIPT TRIANGULAR COLONaAHALF TRIANGULAR COLONa6MALL AEa;CAPITAL Ba;B WITH HOOKb",
   ";DZ DIGRAPHaE WITH RETROFLEX HOOKaKCURLa<EZH DIGRAPHa< WITH TAILaBHOOKaF AND TAILa;REVERSED Ea;C",
   "LOSED REVERSED OPEN Ea;FENG DIGRAPHa;RAMS HORNa;CAPITAL Ga;G WITH HOOKa;CAPITAL G WITH HOOKa;H W",
   "ITH STROKEa;CAPITAL Ha;HENG WITH HOOKa;DOTLESS J WITH STROKE AND HOOKa;LS DIGRAPHa<Z DIGRAPHa< W",
   "ITH BELTa;CAPITAL L WITH BELTa;L WITH RETROFLEX HOOK AND BELTa<EZHa? WITH RETROFLEX HOOKa;TURNED",
   " YaC WITH BELTa;O WITH STROKEa;CAPITAL OEa<LOSED OMEGAa;Qa;TURNED R WITH LONG LEGaQ AND RETROFLE",
   "X HOOKa;R WITH TAILaBFISHHOOKa;CAPITAL Ra;TC DIGRAPH WITH CURLa<S DIGRAPHaE WITH RETROFLEX HOOKa",
   "<ESH DIGRAPHa< WITH RETROFLEX HOOKa;V WITH RIGHT HOOKb;CAPITAL Ya5GLOTTAL STOP WITH STROKEa5REVE",
   "RSED GLOTTAL STOP WITH STROKEa5BILABIAL CLICKa5DENTAL CLICKa5LATERAL CLICKa5ALVEOLAR CLICKa5RETR",
   "OFLEX CLICK WITH RETROFLEX HOOKa5SMALL S WITH CURL!70!!CYPRIOT SYLLABLE Aa6Ea6Ia6Oa6Ua6JAc7Ob6KA",
   "a7Ea7Ia7Oa7Ua6LAa7Ea7Ia7Oa7Ua6MAa7Ea7Ia7Oa7Ua6NAa7Ea7Ia7Oa7Ua6PAa7Ea7Ia7Oa7Ua6RAa7Ea7Ia7Oa7Ua6SA",
   "a7Ea7Ia7Oa7Ua6TAa7Ea7Ia7Oa7Ua6WAa7Ea7Ia7Ob6XAa7Ed6ZAc7Oa!IMPERIAL ARAMAIC LETTER ALEPHa=BETHa=GI",
   "MELa=DALETHa=HEa=WAWa=ZAYINa=HETHa=TETHa=YODHa=KAPHa=LAMEDHa=MEMa=NUNa=SAMEKHa=AYINa=PEa=SADHEa=",
   "QOPHa=RESHa=SHINa=TAWb6SECTION SIGNa6NUMBER ONEa=TWOa>HREEa>ENa>WENTYa=ONE HUNDREDaATHOUSANDa=TE",
   "N THOUSANDa!PALMYRENE LETTER ALEPHa6BETHa6GIMELa6DALETHa6HEa6WAWa6ZAYINa6HETHa6TETHa6YODHa6KAPHa",
   "6LAMEDHa6MEMa6FINAL NUNa6NUNa6SAMEKHa6AYINa6PEa6SADHEa6QOPHa6RESHa6SHINa6TAWa1FT-POINTING FLEURO",
   "Na.RIGHT-POINTING FLEURONa.NUMBER ONEa6TWOa7HREEa6FOURa7IVEa6TENa7WENTYa!NABATAEAN LETTER FINAL ",
   "ALEPHa6ALEPHa6FINAL BETHa6BETHa6GIMELa6DALETHa6FINAL HEa6HEa6WAWa6ZAYINa6HETHa6TETHa6FINAL YODHa",
   "6YODHa6FINAL KAPHa6KAPHa6FINAL LAMEDHa6LAMEDHa6FINAL MEMa6MEMa6FINAL NUNa6NUNa6SAMEKHa6AYINa6PEa",
   "6SADHEa6QOPHa6RESHa6FINAL SHINa6SHINa6TAWi.NUMBER ONEa6TWOa7HREEa6FOURa.CRUCIFORM NUMBER FOURa.N",
   "UMBER FIVEa6TENa7WENTYa6ONE HUNDRED!49!!HATRAN LETTER ALEPHa3BETHa3GIMELa3DALETH-RESHa3HEa3WAWa3",
   "ZAYNa3HETHa3TETHa3YODHa3KAPHa3LAMEDHa3MEMa3NUNa3SAMEKHa3AYNa3PEa3SADHEa3QOPHb3SHINa3TAWf*NUMBER ",
   "ONEa3FIVEa3TENa4WENTYa3ONE HUNDREDa!PHOENICIAN LETTER ALFa7BETa7GAMLa7DELTa7HEa7WAUa7ZAIa7HETa7T",
   "ETa7YODa7KAFa7LAMDa7MEMa7NUNa7SEMKa7AINa7PEa7SADEa7QOFa7ROSHa7SHINa7TAUa0NUMBER ONEa7TENa8WENTYa",
   "7ONE HUNDREDa7TWOa8HREEd0WORD SEPARATORa!LYDIAN LETTER Aa3Ba3Ga3Da3Ea3Va3Ia3Ya3Ka3La3Ma3Na3Oa3Ra",
   "3SSa3Ta3Ua3Fa3Qa3Sa3TTa3ANa3ENa3LYa3NNa3Cf*TRIANGULAR MARK!65!!MEROITIC HIEROGLYPHIC LETTER AaBE",
   "aBIaBOaBYAaBWAaBBAaD-2aBPAaBMAaBNAaD-2aCEaD-2aBRAaD-2aBLAaBKHAaBHHAaBSAaD-2aCEaBKAaBQAaBTAaD-2aC",
   "EaD-2aCOaBDAa;SYMBOL VIDJaF-2a,CURSIVE LETTER Aa=Ea=Ia=Oa=YAa=WAa=BAa=PAa=MAa=NAa>Ea=RAa=LAa=KHA",
   "a=HHAa=SAa=ARCHAIC SAa=SEa=KAa=QAa=TAa>Ea>Oa=DAe6FRACTION ELEVEN TWELFTHSa?ONE HALFa6LOGOGRAM RM",
   "Ta?IMNa6NUMBER ONEa=TWOa>HREEa=FOURa>IVEa=SIXa>EVENa=EIGHTa=NINEa=TENa>WENTYa>HIRTYa=FORTYa>IFTY",
   "a=SIXTYa>EVENTYc=ONE HUNDREDa=TWO HUNDREDa>HREE HUNDREDa=FOUR HUNDREDa>IVE HUNDREDa=SIX HUNDREDa",
   ">EVEN HUNDREDa=EIGHT HUNDREDa=NINE HUNDREDa=ONE THOUSANDa=TWO THOUSANDa>HREE THOUSANDa=FOUR THOU",
   "SANDa>IVE THOUSANDa=SIX THOUSANDa>EVEN THOUSANDa=EIGHT THOUSANDa=NINE THOUSANDa=TEN THOUSANDa>WE",
   "NTY THOUSANDa>HIRTY THOUSANDa=FORTY THOUSANDa>IFTY THOUSANDa=SIXTY THOUSANDa>EVENTY THOUSANDa=EI",
   "GHTY THOUSANDa=NINETY THOUSANDa=ONE HUNDRED THOUSANDa=TWO HUNDRED THOUSANDa>HREE HUNDRED THOUSAN",
   "Da=FOUR HUNDRED THOUSANDa>IVE HUNDRED THOUSANDa=SIX HUNDRED THOUSANDa>EVEN HUNDRED THOUSANDa=EIG",
   "HT HUNDRED THOUSANDa=NINE HUNDRED THOUSANDa6FRACTION ONE TWELFTHa?TWO TWELFTHSa@HREE TWELFTHSa?F",
   "OUR TWELFTHSa@IVE TWELFTHSa?SIX TWELFTHSa@EVEN TWELFTHSa?EIGHT TWELFTHSa?NINE TWELFTHSa?TEN TWEL",
   "FTHSa!KHAROSHTHI LETTER Aa0VOWEL SIGN Ia;Ua;VOCALIC Rb;Ea;Of6LENGTH MARKa0SIGN DOUBLE RING BELOW",
   "a5ANUSVARAa5VISARGAa0LETTER KAa8HAa7GAa8HAb7CAa8HAa7JAb7NYAa7TTAa9HAa7DDAa9HAa7NNAa7TAa8HAa7DAa8",
   "HAa7NAa7PAa8HAa7BAa8HAa7MAa7YAa7RAa7LAa7VAa7SHAa8SAa8Aa7ZAa7HAa7KKAa7TTTHAa:Aa7VHAc0SIGN BAR ABO",
   "VEa5CAUDAa5DOT BELOWe0VIRAMAa0DIGIT ONEa6TWOa7HREEa6FOURa0NUMBER TENa8WENTYa7ONE HUNDREDa;THOUSA",
   "NDa0FRACTION ONE HALFh0PUNCTUATION DOTa<SMALL CIRCLEa<CIRCLEa=RESCENT BARa<MANGALAMa<LOTUSa<DAND",
   "Aa=OUBLE DANDAa<LINESh!OLD SOUTH ARABIAN LETTER HEa>LAMEDHa>HETHa>MEMa>QOPHa>WAWa>SHINa>RESHa>BE",
   "THa>TAWa>SATa>KAPHa>NUNa>KHETHa>SADHEa@MEKHa>FEa>ALEFa?YNa>DHADHEa>GIMELa>DALETHa>GHAYNa>TETHa>Z",
   "AYNa>DHALETHa>YODHa>THAWa@ETHa7NUMBER ONEa>FIFTYa:ERIC INDICATORa&NORTH ARABIAN LETTER HEHa>LAMa",
   ">HAHa>MEEMa>QAFa>WAWa>ES-2a>REHa>BEHa>TEHa>ES-1a>KAFa>NOONa>KHAHa>SADa>ES-3a>FEHa>ALEFa?INa>DADa",
   ">GEEMa>DALa>GHAINa>TAHa>ZAINa>THALa>YEHa>THEHa>ZAHa7NUMBER ONEa>TENa?WENTY!33!!MANICHAEAN LETTER",
   " ALEPHa7BETHa8HETHa7GIMELa8HIMELa7DALETHa7HEa7WAWa0SIGN UDa0LETTER ZAYINa8HAYINa7JAYINa8HAYINa7H",
   "ETHa7TETHa7YODHa7KAPHa7XAPHa7KHAPHa7LAMEDHa7DHAMEDHa7THAMEDHa7MEMa7NUNa7SAMEKHa7AYINa8AYINa7PEa7",
   "FEa7SADHEa7QOPHa7XOPHa7QHOPHa7RESHa7SHINa8SHINa7TAWa0ABBREVIATION MARK ABOVEaBBELOWe0NUMBER ONEa",
   "7FIVEa7TENa8WENTYa7ONE HUNDREDa0PUNCTUATION STARa<FLEURONa<DOUBLE DOT WITHIN DOTa>T WITHIN DOTa>",
   "Ta<TWO DOTSa<LINE FILLERj!AVESTAN LETTER Aa5Aa5Oa5AOa5Na5ANa5Ea6Ea4Ea5Ea4Oa5Oa4Ia5Ia4Ua5Ua4KEa4X",
   "Ea5YEa5VEa4GEa5GEa5HEa4CEa4JEa4TEa5HEa4DEa5HEa4TTEa4PEa4FEa4BEa5HEa4NGEa6YEa6VEa5Ea5YEa5NEa4MEa4",
   "HMEa4YYEa5Ea4VEa4REa4LEa4SEa4ZEa4SHEa4ZHEa4SHYEa5SHEa4HEd+ABBREVIATION MARKa!TINY TWO DOTS OVER ",
   "ONE DOT PUNCTUATIONa!SMALL TWO DOTS OVER ONE DOT PUNCTUATIONa!LARGE TWO DOTS OVER ONE DOT PUNCTU",
   "ATIONa)ONE DOT OVER TWO DOTS PUNCTUATIONa)TWO RINGS OVER ONE RING PUNCTUATIONa)ONE RING OVER TWO",
   " RINGS PUNCTUATIONa!INSCRIPTIONAL PARTHIAN LETTER ALEPHaCBETHaCGIMELaCDALETHaCHEaCWAWaCZAYINaCHE",
   "THaCTETHaCYODHaCKAPHaCLAMEDHaCMEMaCNUNaCSAMEKHaCAYINaCPEaCSADHEaCQOPHaCRESHaCSHINaCTAWc<NUMBER O",
   "NEaCTWOaDHREEaCFOURaCTENaDWENTYaCONE HUNDREDaGTHOUSANDa5HLAVI LETTER ALEPHaBBETHaBGIMELaBDALETHa",
   "BHEaBWAW-AYIN-RESHaBZAYINaBHETHaBTETHaBYODHaBKAPHaBLAMEDHaBMEM-QOPHaBNUNaBSAMEKHaBPEaBSADHEaCHIN",
   "aBTAWf;NUMBER ONEaBTWOaCHREEaBFOURaBTENaCWENTYaBONE HUNDREDaFTHOUSANDa!PSALTER PAHLAVI LETTER AL",
   "EPHa<BETHa<GIMELa<DALETHa<HEa<WAW-AYIN-RESHa<ZAYINa<HETHa<YODHa<KAPHa<LAMEDHa<MEM-QOPHa<NUNa<SAM",
   "EKHa<PEa<SADHEa=HINa<TAWh5SECTION MARKa5TURNED SECTION MARKa5FOUR DOTS WITH CROSSaDDOTm5NUMBER O",
   "NEa<TWOa=HREEa<FOURa<TENa=WENTYa<ONE HUNDRED!81!!OLD TURKIC LETTER ORKHON Aa7YENISEI Aa@Ea7ORKHO",
   "N Ia7YENISEI Ia?Ea7ORKHON Oa?Ea7YENISEI OEa7ORKHON ABa7YENISEI ABa7ORKHON AEBa7YENISEI AEBa7ORKH",
   "ON AGa7YENISEI AGa7ORKHON AEGa7YENISEI AEGa7ORKHON ADa7YENISEI ADa7ORKHON AEDa>EZa7YENISEI EZa7O",
   "RKHON AYa7YENISEI AYa7ORKHON AEYa7YENISEI AEYa7ORKHON AEKa7YENISEI AEKa7ORKHON OEKa7YENISEI OEKa",
   "7ORKHON ALa7YENISEI ALa7ORKHON AELa>ELTa?Ma>ANa?ENa7YENISEI AENa7ORKHON ENTa7YENISEI ENTa7ORKHON",
   " ENCa7YENISEI ENCa7ORKHON ENYa7YENISEI ENYa?ANGa7ORKHON ENGa7YENISEI AENGa7ORKHON EPa>OPa>ICa>EC",
   "a7YENISEI ECa7ORKHON AQa7YENISEI AQa7ORKHON IQa7YENISEI IQa7ORKHON OQa7YENISEI OQa7ORKHON ARa7YE",
   "NISEI ARa7ORKHON AERa?Sa?ESa?SHa7YENISEI ASHa7ORKHON ESHa7YENISEI ESHa7ORKHON ATa7YENISEI ATa7OR",
   "KHON AETa7YENISEI AETa7ORKHON OTa>BASH!56!&HUNGARIAN CAPITAL LETTER AaCAaBEBaBAMBaBECaCNCaCCSaCD",
   "aBANDaBEaBCLOSE EaBEEaCFaCGaDYaCHaBIaCIaBEJaCKaBAKaBUNKaBELaDYaCMaCNaDYaBOaCOaBNIKOLSBURG OEaBRU",
   "DIMENTA OEaBOEEaBEPaCMPaCRaBSHORT ERaBESaDZaCTaCNTaCTYaCCHaBUaCUaBNIKOLSBURG UEaBRUDIMENTA UEaBE",
   "VaCZaDSaCNT-SHAPED SIGNaBUSn3SMALL LETTER AaAAa@EBa@AMBa@ECaANCaACSaADa@ANDa@Ea@CLOSE Ea@EEaAFaA",
   "GaBYaAHa@IaAIa@EJaAKa@AKa@UNKa@ELaBYaAMaANaBYa@OaAOa@NIKOLSBURG OEa@RUDIMENTA OEa@OEEa@EPaAMPaAR",
   "a@SHORT ERa@ESaBZaATaANTaATYaACHa@UaAUa@NIKOLSBURG UEa@RUDIMENTA UEa@EVaAZaBSaANT-SHAPED SIGNa@U",
   "Sh3NUMBER ONEa:FIVEa:TENa:FIFTYa:ONE HUNDREDa>THOUSANDa!HANIFI ROHINGYA LETTER Aa<BAa<PAa<TAa=TA",
   "a<JAa<CAa<HAa<KHAa<FAa<DAa=DAa<RAa=RAa<ZAa<SAa=HAa<KAa<GAa<LAa<MAa<NAa<WAa<KINNA WAa<YAa<KINNA Y",
   "Aa<NGAa=YAa<VAa5VOWEL Aa;Ia;Ua;Ea;Oa5MARK SAKINa:NA KHONNAa5SIGN HARBAHAYa:TAHALAa<NAa<SSIi5DIGI",
   "T ZEROa;ONEa;TWOa<HREEa;FOURa<IVEa;SIXa<EVENa;EIGHTa;NINE!295!!RUMI DIGIT ONEa0TWOa1HREEa0FOURa1",
   "IVEa0SIXa1EVENa0EIGHTa0NINEa(NUMBER TENa2WENTYa2HIRTYa1FORTYa2IFTYa1SIXTYa2EVENTYa1EIGHTYa1NINET",
   "Ya1ONE HUNDREDa1TWO HUNDREDa2HREE HUNDREDa1FOUR HUNDREDa2IVE HUNDREDa1SIX HUNDREDa2EVEN HUNDREDa",
   "1EIGHT HUNDREDa1NINE HUNDREDa(FRACTION ONE HALFa7QUARTERa7THIRDa3TWO THIRDSb!YEZIDI LETTER ELIFa",
   "3BEa3PEa4HEa3THEa3SEa3CIMa4HIMa5HIMa3HHAa3XAa3DALa3ZALa3RAa4HAa3ZAa3JAa3SINa4HINa4ADa3DADa3TAa3Z",
   "Ea3EYNa3XHEYNa3FAa3VAa5 ALTERNATE FORMa3QAFa3KAFa4HAFa3GAFa3LAMa3MIMa3NUNa3UMa3WAWa3OWa3EWa3HAYa",
   "3YOTa3ETb*COMBINING HAMZA MARKa6MADDA MARKa*HYPHENATION MARKc*LETTER LAM WITH DOT ABOVEa3YOT WIT",
   "H CIRCUMFLEX ABOVE!76!!ARABIC SMALL LOW WORD SAKTAa;QASRa;MADDAa!OLD SOGDIAN LETTER ALEPHa8FINAL",
   " ALEPHa8BETHa8FINAL BETHa8GIMELa8HEa8FINAL HEa8WAWa8ZAYINa8HETHa8YODHa8KAPHa8LAMEDHa8MEMa8NUNa8F",
   "INAL NUNaA WITH VERTICAL TAILa8SAMEKHa8AYINa9LTERNATE AYINa8PEa8SADHEa8FINAL SADHEaC WITH VERTIC",
   "AL TAILa8RESH-AYIN-DALETHa8SHINa8TAWa8FINAL TAWaA WITH VERTICAL TAILa1NUMBER ONEa8TWOa9HREEa8FOU",
   "Ra9IVEa8TENa9WENTYa9HIRTYa8ONE HUNDREDa1FRACTION ONE HALFa1LIGATURE AYIN-DALETHi!SOGDIAN LETTER ",
   "ALEPHa4BETHa4GIMELa4HEa4WAWa4ZAYINa4HETHa4YODHa4KAPHa4LAMEDHa4MEMa4NUNa4SAMEKHa4AYINa4PEa4SADHEa",
   "4RESH-AYINa4SHINa4TAWa4FETHa4LESHa+INDEPENDENT SHINa+COMBINING DOT BELOWa7TWO DOTS BELOWa7DOT AB",
   "OVEa7TWO DOTS ABOVEa7CURVE ABOVEa=BELOWa7HOOK ABOVEa<BELOWa7LONG HOOK BELOWa7RESH BELOWa7STROKE ",
   "BELOWa+NUMBER ONEa4TENa5WENTYa4ONE HUNDREDa+PUNCTUATION TWO VERTICAL BARSaJ WITH DOTSa9CIRCLE WI",
   "TH DOTa9TWO CIRCLES WITH DOTSa9HALF CIRCLE WITH DOTw!OLD UYGHUR LETTER ALEPHa7BETHa7GIMEL-HETHa7",
   "WAWa7ZAYINa7FINAL HETHa7YODHa7KAPHa7LAMEDHa7MEMa7NUNa7SAMEKHa7PEa7SADHEa7RESHa7SHINa7TAWa7LESHa0",
   "COMBINING DOT ABOVEa>BELOWa:TWO DOTS ABOVEaCBELOWa0PUNCTUATION BARa<TWO BARSa@DOTSa<FOUR DOTS!39",
   "!!CHORASMIAN LETTER ALEPHa7SMALL ALEPHa7BETHa7GIMELa7DALETHa7HEa7WAWa7CURLED WAWa7ZAYINa7HETHa7Y",
   "ODHa7KAPHa7LAMEDHa7MEMa7NUNa7SAMEKHa7AYINa7PEa7RESHa7SHINa7TAWa0NUMBER ONEa7TWOa8HREEa7FOURa7TEN",
   "a8WENTYa7ONE HUNDREDu!ELYMAIC LETTER ALEPHa4BETHa4GIMELa4DALETHa4HEa4WAWa4ZAYINa4HETHa4TETHa4YOD",
   "Ha4KAPHa4LAMEDHa4MEMa4NUNa4SAMEKHa4AYINa4PEa4SADHEa4QOPHa4RESHa4SHINa4TAWa,IGATURE ZAYIN-YODHj!B",
   "RAHMI SIGN CANDRABINDUa1ANUSVARAa1VISARGAa1JIHVAMULIYAa1UPADHMANIYAa*LETTER Aa4Aa3Ia4Ia3Ua4Ua3VO",
   "CALIC Ra<Ra;La<La3Ea3AIa3Oa3AUa3KAa4HAa3GAa4HAa3NGAa3CAa4HAa3JAa4HAa3NYAa3TTAa5HAa3DDAa5HAa3NNAa",
   "3TAa4HAa3DAa4HAa3NAa3PAa4HAa3BAa4HAa3MAa3YAa3RAa3LAa3VAa3SHAa4SAa4Aa3HAa3LLAa3OLD TAMIL LLLAa=RR",
   "Aa=NNNAa*VOWEL SIGN AAa7BHATTIPROLU AAa7Ia8Ia7Ua8Ua7VOCALIC Ra@Ra?La@La7Ea7AIa7Oa7AUa+IRAMAa*DAN",
   "DAa+OUBLE DANDAa*PUNCTUATION DOTa:UBLE DOTa8LINEa8CRESCENT BARa8LOTUSe*NUMBER ONEa3TWOa4HREEa3FO",
   "URa4IVEa3SIXa4EVENa3EIGHTa3NINEa3TENa4WENTYa4HIRTYa3FORTYa4IFTYa3SIXTYa4EVENTYa3EIGHTYa3NINETYa3",
   "ONE HUNDREDa7THOUSANDa*DIGIT ZEROa2ONEa2TWOa3HREEa2FOURa3IVEa2SIXa3EVENa2EIGHTa2NINEa*SIGN OLD T",
   "AMIL VIRAMAa*LETTER OLD TAMIL SHORT EaCOa*VOWEL SIGN OLD TAMIL SHORT EaGOa*LETTER OLD TAMIL LLAj",
   "*NUMBER JOINERa!KAITHI SIGN CANDRABINDUa1ANUSVARAa1VISARGAa*LETTER Aa4Aa3Ia4Ia3Ua4Ua3Ea3AIa3Oa3A",
   "Ua3KAa4HAa3GAa4HAa3NGAa3CAa4HAa3JAa4HAa3NYAa3TTAa5HAa3DDAa5DHAa5HAa3RHAa3NNAa3TAa4HAa3DAa4HAa3NA",
   "a3PAa4HAa3BAa4HAa3MAa3YAa3RAa3LAa3VAa3SHAa4SAa4Aa3HAa*VOWEL SIGN AAa7Ia8Ia7Ua8Ua7Ea7AIa7Oa7AUa*S",
   "IGN VIRAMAa1NUKTAa*ABBREVIATION SIGNa*ENUMERATION SIGNa*NUMBER SIGNa*SECTION MARKa*DOUBLE SECTIO",
   "N MARKa+ANDAa+OUBLE DANDAa*VOWEL SIGN VOCALIC Rk*NUMBER SIGN ABOVEc!SORA SOMPENG LETTER SAHa9TAH",
   "a9BAHa9CAHa9DAHa9GAHa9MAHa9NGAHa9LAHa9NAHa9VAHa9PAHa9YAHa9RAHa9HAHa9KAHa9JAHa9NYAHa9AHa9EEHa9IHa",
   "9UHa9OHa9EHa9MAEh2DIGIT ZEROa8ONEa8TWOa9HREEa8FOURa9IVEa8SIXa9EVENa8EIGHTa8NINEg!CHAKMA SIGN CAN",
   "DRABINDUa1ANUSVARAa1VISARGAa*LETTER AAa3Ia3Ua3Ea3KAAa4HAAa3GAAa4HAAa3NGAAa3CAAa4HAAa3JAAa4HAAa3N",
   "YAAa3TTAAa5HAAa3DDAAa5HAAa3NNAAa3TAAa4HAAa3DAAa4HAAa3NAAa3PAAa4HAAa3BAAa4HAAa3MAAa3YYAAa4AAa3RAA",
   "a3LAAa3WAAa3SAAa3HAAa*VOWEL SIGN Aa7Ia8Ia7Ua8Ua7Ea7AIa7Oa7AUa7OIa*O MARKa*AU MARKa*VIRAMAa*MAAYY",
   "AAb*DIGIT ZEROa2ONEa2TWOa3HREEa2FOURa3IVEa2SIXa3EVENa2EIGHTa2NINEa*SECTION MARKa*DANDAa+OUBLE DA",
   "NDAa*QUESTION MARKa*LETTER LHAAa*VOWEL SIGN AAa7EIa*LETTER VAAi!MAHAJANI LETTER Aa5Ia5Ua5Ea5Oa5K",
   "Aa6HAa5GAa6HAa5CAa6HAa5JAa6HAa5NYAa5TTAa7HAa5DDAa7HAa5NNAa5TAa6HAa5DAa6HAa5NAa5PAa6HAa5BAa6HAa5M",
   "Aa5RAa5LAa5VAa5SAa5HAa5RRAa,SIGN NUKTAa,ABBREVIATION SIGNa,SECTION MARKa,LIGATURE SHRIj!SHARADA ",
   "SIGN CANDRABINDUa2ANUSVARAa2VISARGAa+LETTER Aa5Aa4Ia5Ia4Ua5Ua4VOCALIC Ra=Ra<La=La4Ea4AIa4Oa4AUa4",
   "KAa5HAa4GAa5HAa4NGAa4CAa5HAa4JAa5HAa4NYAa4TTAa6HAa4DDAa6HAa4NNAa4TAa5HAa4DAa5HAa4NAa4PAa5HAa4BAa",
   "5HAa4MAa4YAa4RAa4LAa5LAa4VAa4SHAa5SAa5Aa4HAa+VOWEL SIGN AAa8Ia9Ia8Ua9Ua8VOCALIC RaARa@LaALa8Ea8A",
   "Ia8Oa8AUa+SIGN VIRAMAa2AVAGRAHAa2JIHVAMULIYAa2UPADHMANIYAa+OMa+DANDAa,OUBLE DANDAa+ABBREVIATION ",
   "SIGNa+SEPARATORa,ANDHI MARKa,IGN NUKTAa+VOWEL MODIFIER MARKa+EXTRA SHORT VOWEL MARKa+SUTRA MARKa",
   "+VOWEL SIGN PRISHTHAMATRA Ea+SIGN INVERTED CANDRABINDUa+DIGIT ZEROa3ONEa3TWOa4HREEa3FOURa4IVEa3S",
   "IXa4EVENa3EIGHTa3NINEa+EKAMa+SIGN SIDDHAMa+HEADSTROKEa+CONTINUATION SIGNa+SECTION MARK-1a:2b#INH",
   "ALA ARCHAIC DIGIT ONEa;TWOa<HREEa;FOURa<IVEa;SIXa<EVENa;EIGHTa;NINEa5NUMBER TENa=WENTYa=HIRTYa<F",
   "ORTYa=IFTYa<SIXTYa=EVENTYa<EIGHTYa<NINETYa<ONE HUNDREDa@THOUSANDl!KHOJKI LETTER Aa4Aa3Ia3Ua3Ea3A",
   "Ia3Oa3AUa3KAa4HAa3GAa4GAa4HAa3NGAa3CAa4HAa3JAa4JAb3NYAa3TTAa5HAa3DDAa5HAa3NNAa3TAa4HAa3DAa4DDAa4",
   "HAa3NAa3PAa4HAa3BAa4BAa4HAa3MAa3YAa3RAa3LAa3VAa3SAa3HAa3LLAa*VOWEL SIGN AAa7Ia8Ia7Ua7Ea7AIa7Oa7A",
   "Ua*SIGN ANUSVARAa1VIRAMAa1NUKTAa1SHADDAa*DANDAa+OUBLE DANDAa*WORD SEPARATORa*SECTION MARKa*DOUBL",
   "E SECTION MARKa*ABBREVIATION SIGNa*SIGN SUKUNa*LETTER QAa3SHORT Ia*VOWEL SIGN VOCALIC R!63!!MULT",
   "ANI LETTER Aa4Ia4Ua4Ea4KAa5HAa4GAb5HAb4CAa5HAa4JAa5JAb4NYAa4TTAa6HAa4DDAa6DAa6HAa4NNAa4TAa5HAa4D",
   "Aa5HAa4NAa4PAa5HAa4BAb5HAa4MAa4YAa4RAa4LAa4VAa4SAa4HAa4RRAa5HAa+SECTION MARKg!KHUDAWADI LETTER A",
   "a7Aa6Ia7Ia6Ua7Ua6Ea6AIa6Oa6AUa6KAa7HAa6GAa7GAa7HAa6NGAa6CAa7HAa6JAa7JAa7HAa6NYAa6TTAa8HAa6DDAa8D",
   "Aa6RRAa6DDHAa6NNAa6TAa7HAa6DAa7HAa6NAa6PAa7HAa6BAa7BAa7HAa6MAa6YAa6RAa6LAa6VAa6SHAa7Aa6HAa.SIGN ",
   "ANUSVARAa.VOWEL SIGN AAa:Ia;Ia:Ua;Ua:Ea:AIa:Oa:AUa.SIGN NUKTAa4VIRAMAf.DIGIT ZEROa5ONEa5TWOa6HRE",
   "Ea5FOURa6IVEa5SIXa6EVENa5EIGHTa5NINEg!GRANTHA SIGN COMBINING ANUSVARA ABOVEa3ANDRABINDUa2ANUSVAR",
   "Aa2VISARGAb+LETTER Aa5Aa4Ia5Ia4Ua5Ua4VOCALIC Ra<Lc4EEa4AIc4OOa4AUa4KAa5HAa4GAa5HAa4NGAa4CAa5HAa4",
   "JAa5HAa4NYAa4TTAa6HAa4DDAa6HAa4NNAa4TAa5HAa4DAa5HAa4NAb4PAa5HAa4BAa5HAa4MAa4YAa4RAb4LAa5LAb4VAa4",
   "SHAa5SAa5Aa4HAb!COMBINING BINDU BELOWa!GRANTHA SIGN NUKTAa2AVAGRAHAa+VOWEL SIGN AAa8Ia9Ia8Ua9Ua8",
   "VOCALIC RaARc8EEa8AIc8OOa8AUa+SIGN VIRAMAc+OMg+AU LENGTH MARKf+SIGN PLUTAa+LETTER VEDIC ANUSVARA",
   "a:DOUBLE ANUSVARAa5OCALIC RRa<LLa+VOWEL SIGN VOCALIC LaALc!COMBINING GRANTHA DIGIT ZEROa=ONEa=TW",
   "Oa>HREEa=FOURa>IVEa=SIXd7LETTER Aa>KAa>NAa>VIa>PA!140!!NEWA LETTER Aa2Aa1Ia2Ia1Ua2Ua1VOCALIC Ra:",
   "Ra9La:La1Ea1AIa1Oa1AUa1KAa2HAa1GAa2HAa1NGAa3HAa1CAa2HAa1JAa2HAa1NYAa3HAa1TTAa3HAa1DDAa3HAa1NNAa1",
   "TAa2HAa1DAa2HAa1NAa2HAa1PAa2HAa1BAa2HAa1MAa2HAa1YAa1RAa2HAa1LAa2HAa1WAa1SHAa2SAa2Aa1HAa(VOWEL SI",
   "GN AAa5Ia6Ia5Ua6Ua5VOCALIC Ra>Ra=La>La5Ea5AIa5Oa5AUa(SIGN VIRAMAa.CANDRABINDUa.ANUSVARAa.VISARGA",
   "a.NUKTAa.AVAGRAHAa.FINAL ANUSVARAa(OMa(SIDDHIa(DANDAa)OUBLE DANDAa(COMMAa(GAP FILLERa(ABBREVIATI",
   "ON SIGNa(DIGIT ZEROa0ONEa0TWOa1HREEa0FOURa1IVEa0SIXa1EVENa0EIGHTa0NINEa)OUBLE COMMAa(PLACEHOLDER",
   " MARKb(INSERTION SIGNa(SANDHI MARKa(LETTER VEDIC ANUSVARAa(SIGN JIHVAMULIYAa.UPADHMANIYA!31!!TIR",
   "HUTA ANJIa+LETTER Aa5Aa4Ia5Ia4Ua5Ua4VOCALIC Ra=Ra<La=La4Ea4AIa4Oa4AUa4KAa5HAa4GAa5HAa4NGAa4CAa5H",
   "Aa4JAa5HAa4NYAa4TTAa6HAa4DDAa6HAa4NNAa4TAa5HAa4DAa5HAa4NAa4PAa5HAa4BAa5HAa4MAa4YAa4RAa4LAa4VAa4S",
   "HAa5SAa5Aa4HAa+VOWEL SIGN AAa8Ia9Ia8Ua9Ua8VOCALIC RaARa@LaALa8Ea8SHORT Ea8AIa8Oa8SHORT Oa8AUa+SI",
   "GN CANDRABINDUa2ANUSVARAa2VISARGAa4RAMAa2NUKTAa2AVAGRAHAa+GVANGa+ABBREVIATION SIGNa+OMi+DIGIT ZE",
   "ROa3ONEa3TWOa4HREEa3FOURa4IVEa3SIXa4EVENa3EIGHTa3NINE!167!!SIDDHAM LETTER Aa5Aa4Ia5Ia4Ua5Ua4VOCA",
   "LIC Ra=Ra<La=La4Ea4AIa4Oa4AUa4KAa5HAa4GAa5HAa4NGAa4CAa5HAa4JAa5HAa4NYAa4TTAa6HAa4DDAa6HAa4NNAa4T",
   "Aa5HAa4DAa5HAa4NAa4PAa5HAa4BAa5HAa4MAa4YAa4RAa4LAa4VAa4SHAa5SAa5Aa4HAa+VOWEL SIGN AAa8Ia9Ia8Ua9U",
   "a8VOCALIC RaARc8Ea8AIa8Oa8AUa+SIGN CANDRABINDUa2ANUSVARAa2VISARGAa4RAMAa2NUKTAa2SIDDHAMa+DANDAa,",
   "OUBLE DANDAa+SEPARATOR DOTa7BARa+REPETITION MARK-1a=2a=3a+END OF TEXT MARKa+SECTION MARK WITH TR",
   "IDENT AND U-SHAPED ORNAMENTSaKDOTTED CRESCENTSa?RAYS AND DOTTED CRESCENTSaODOUBLE CRESCENTSaOTRI",
   "PLE CRESCENTSa:DOUBLE RINGaE WITH RAYSa:WITH DOUBLE CRESCENTSa?TRIPLE CRESCENTSa?QUADRUPLE CRESC",
   "ENTSa?SEPTUPLE CRESCENTSa?CIRCLES AND RAYSaKTWO ENCLOSURESaKFOUR ENCLOSURESa+LETTER THREE-CIRCLE",
   " ALTERNATE Ia5WO-CIRCLE ALTERNATE IaJIa4ALTERNATE Ua+VOWEL SIGN ALTERNATE UaCU!35!!MODI LETTER A",
   "a2Aa1Ia2Ia1Ua2Ua1VOCALIC Ra:Ra9La:La1Ea1AIa1Oa1AUa1KAa2HAa1GAa2HAa1NGAa1CAa2HAa1JAa2HAa1NYAa1TTA",
   "a3HAa1DDAa3HAa1NNAa1TAa2HAa1DAa2HAa1NAa1PAa2HAa1BAa2HAa1MAa1YAa1RAa1LAa1VAa1SHAa2SAa2Aa1HAa1LLAa",
   "(VOWEL SIGN AAa5Ia6Ia5Ua6Ua5VOCALIC Ra>Ra=La>La5Ea5AIa5Oa5AUa(SIGN ANUSVARAa.VISARGAa1RAMAa.ARDH",
   "ACANDRAa(DANDAa)OUBLE DANDAa(ABBREVIATION SIGNa(SIGN HUVAl(DIGIT ZEROa0ONEa0TWOa1HREEa0FOURa1IVE",
   "a0SIXa1EVENa0EIGHTa0NINEg$NGOLIAN BIRGA WITH ORNAMENTa.ROTATED BIRGAa.DOUBLE BIRGA WITH ORNAMENT",
   "a.TRIPLE BIRGA WITH ORNAMENTa.BIRGA WITH DOUBLE ORNAMENTa.ROTATED BIRGA WITH ORNAMENTaBDOUBLE OR",
   "NAMENTa.INVERTED BIRGAa= WITH DOUBLE ORNAMENTa.SWIRL BIRGAa: WITH ORNAMENTa@DOUBLE ORNAMENTa.TUR",
   "NED SWIRL BIRGA WITH DOUBLE ORNAMENTt!TAKRI LETTER Aa3Aa2Ia3Ia2Ua3Ua2Ea2AIa2Oa2AUa2KAa3HAa2GAa3H",
   "Aa2NGAa2CAa3HAa2JAa3HAa2NYAa2TTAa4HAa2DDAa4HAa2NNAa2TAa3HAa2DAa3HAa2NAa2PAa3HAa2BAa3HAa2MAa2YAa2",
   "RAa2LAa2VAa2SHAa3Aa2HAa2RRAa)SIGN ANUSVARAa0VISARGAa)VOWEL SIGN AAa6Ia7Ia6Ua7Ua6Ea6AIa6Oa6AUa)SI",
   "GN VIRAMAa0NUKTAa)LETTER ARCHAIC KHAa)ABBREVIATION SIGNg)DIGIT ZEROa1ONEa1TWOa2HREEa1FOURa2IVEa1",
   "SIXa2EVENa1EIGHTa1NINE!55!!AHOM LETTER KAa2HAa1NGAa2Aa1TAa1ALTERNATE TAa1PAa2HAa1BAa1MAa1JAa1CHA",
   "a1THAa1RAa1LAa1SAa1NYAa1HAa1Aa1DAa2HAa1GAa1ALTERNATE GAa1GHAa1BHAa1JHAa1ALTERNATE BAc(CONSONANT ",
   "SIGN MEDIAL LAa@RAa@LIGATING RAa(VOWEL SIGN Aa6Aa5Ia6Ia5Ua6Ua5Ea5AWa5Oa5AIa6Ma(SIGN KILLERe(DIGI",
   "T ZEROa0ONEa0TWOa1HREEa0FOURa1IVEa0SIXa1EVENa0EIGHTa0NINEa(NUMBER TENa2WENTYa(SIGN SMALL SECTION",
   "a0ECTIONa.RULAIa)YMBOL VIa(LETTER CAa1TTAa3HAa1DDAa3HAa1NNAa1LLA!186!!DOGRA LETTER Aa3Aa2Ia3Ia2U",
   "a3Ua2Ea2AIa2Oa2AUa2KAa3HAa2GAa3HAa2NGAa2CAa3HAa2JAa3HAa2NYAa2TTAa4HAa2DDAa4HAa2NNAa2TAa3HAa2DAa3",
   "HAa2NAa2PAa3HAa2BAa3HAa2MAa2YAa2RAa2LAa2VAa2SHAa3SAa3Aa2HAa2RRAa)VOWEL SIGN AAa6Ia7Ia6Ua7Ua6VOCA",
   "LIC Ra?Ra6Ea6AIa6Oa6AUa)SIGN ANUSVARAa0VISARGAa2RAMAa0NUKTAa)ABBREVIATION SIGN!101!!WARANG CITI ",
   "CAPITAL LETTER NGAAa@Aa@WIa@YUaAAaAOa@IIa@UUa@Ea@Oa@ANGa@GAa@KOa@ENYa@YUJa@UCa@ENNa@ODDa@TTEa@NU",
   "NGa@DAa@ATaAMa@BUa@PUa@HIYOaAOLOaBRRaAARa@SSUUaAIIa@VIYOa1SMALL LETTER NGAAa>Aa>WIa>YUa?Aa?Oa>II",
   "a>UUa>Ea>Oa>ANGa>GAa>KOa>ENYa>YUJa>UCa>ENNa>ODDa>TTEa>NUNGa>DAa>ATa?Ma>BUa>PUa>HIYOa?OLOa@RRa?AR",
   "a>SSUUa?IIa>VIYOa1DIGIT ZEROa7ONEa7TWOa8HREEa7FOURa8IVEa7SIXa8EVENa7EIGHTa7NINEa1NUMBER TENa9WEN",
   "TYa9HIRTYa8FORTYa9IFTYa8SIXTYa9EVENTYa8EIGHTYa8NINETYm1OMa!DIVES AKURU LETTER Aa9Aa8Ia9Ia8Ua9Ua8",
   "Ec8Oc8KAa9HAa8GAa9HAa8NGAa8CAa9HAa8JAb8NYAa8TTAb8DDAa:HAa8NNAa8TAa9HAa8DAa9HAa8NAa8PAa9HAa8BAa9H",
   "Aa8MAa8YAa9YAa8RAa8LAa8VAa8SHAa9SAa9Aa8HAa8LLAa8ZAa1VOWEL SIGN AAa<Ia=Ia<Ua=Ua<Eb<AIa<Oc1SIGN AN",
   "USVARAa6CANDRABINDUa6HALANTAa1VIRAMAa1PREFIXED NASAL SIGNa1MEDIAL YAa1INITIAL RAa1MEDIAL RAa1SIG",
   "N NUKTAa1DOUBLE DANDAa1GAP FILLERa1END OF TEXT MARKj1DIGIT ZEROa7ONEa7TWOa8HREEa7FOURa8IVEa7SIXa",
   "8EVENa7EIGHTa7NINE!71!!NANDINAGARI LETTER Aa9Aa8Ia9Ia8Ua9Ua8VOCALIC RaARc8Ea8AIa8Oa8AUa8KAa9HAa8",
   "GAa9HAa8NGAa8CAa9HAa8JAa9HAa8NYAa8TTAa:HAa8DDAa:HAa8NNAa8TAa9HAa8DAa9HAa8NAa8PAa9HAa8BAa9HAa8MAa",
   "8YAa8RAa8LAa8VAa8SHAa9SAa9Aa8HAa8LLAa8RRAa1VOWEL SIGN AAa<Ia=Ia<Ua=Ua<VOCALIC RaERc<Ea<AIa<Oa<AU",
   "a1SIGN ANUSVARAa6VISARGAa8RAMAa6AVAGRAHAa6SIDDHAMa1HEADSTROKEa1VOWEL SIGN PRISHTHAMATRA E!28!!ZA",
   "NABAZAR SQUARE LETTER Aa6VOWEL SIGN IaAUEaAUaAEaAOEaAOaAAIaBUaAREVERSED Ia<LENGTH MARKa6LETTER K",
   "Aa>HAa=GAa>HAa=NGAa=CAa>HAa=JAa=NYAa=TTAa?HAa=DDAa?HAa=NNAa=TAa>HAa=DAa>HAa=NAa=PAa>HAa=BAa>HAa=",
   "MAa=TSAa?HAa=DZAa?HAa=ZHAa>Aa=-Aa=YAa=RAa=LAa=VAa=SHAa>SAa>Aa=HAa=KSSAa6FINAL CONSONANT MARKa6SI",
   "GN VIRAMAa;CANDRABINDUaF WITH ORNAMENTaA WITH ORNAMENTa;ANUSVARAa;VISARGAa6CLUSTER-INITIAL LETTE",
   "R RAa>FINAL LETTER YAaKRAaKLAaKVAa6INITIAL HEAD MARKa6CLOSING HEAD MARKa6MARK TSHEGa;SHADa;DOUBL",
   "E SHADa;LONG TSHEGa6INITIAL DOUBLE-LINED HEAD MARKa6CLOSING DOUBLE-LINED HEAD MARKa6SUBJOINERi!S",
   "OYOMBO LETTER Aa+VOWEL SIGN Ia8UEa8Ua8Ea8Oa9Ea8AIa9Ua8VOCALIC Ra@La3LENGTH MARKa+LETTER KAa5HAa4",
   "GAa5HAa4NGAa4CAa5HAa4JAa5HAa4NYAa4TTAa6HAa4DDAa6HAa4NNAa4TAa5HAa4DAa5HAa4NAa4PAa5HAa4BAa5HAa4MAa",
   "4TSAa6HAa4DZAa4ZHAa5Aa4-Aa4YAa4RAa4LAa4VAa4SHAa5SAa5Aa4HAa4KSSAa+SIGN JIHVAMULIYAa2UPADHMANIYAa+",
   "CLUSTER-INITIAL LETTER RAaDLAaDSHAaEAa+FINAL CONSONANT SIGN GaBKaBNGaBDaBNaBBaBMaBRaBLaBSHaBSaB-",
   "Aa+SIGN ANUSVARAa2VISARGAa+GEMINATION MARKa+SUBJOINERa+MARK TSHEGa2SHADa2DOUBLE SHADa2PLUTAa+HEA",
   "D MARK WITH MOON AND SUN AND TRIPLE FLAMEaMFLAMEaGNa+TERMINAL MARK-1a;2n!CANADIAN SYLLABICS NATT",
   "ILIK HIaCIaBOaCOaBAaCAaASHRIaEIaDOaEOaDAaEAa8SPEa:Ia:Oa:Aa!PAU CIN HAU LETTER PAa8KAa8LAa8MAa8DA",
   "a8ZAa8VAa8NGAa8HAa8GAa8KHAa8SAa8BAa8CAa8TAa9HAa8NAa8PHAa8RAa8FAa8CHAa8Aa8Ea8Ia8Oa8Ua9Aa8IAa8FINA",
   "L Pa>Ka>Ta>Ma>Na>La>Wa>NGa>Ya1RISING TONE LONGa;Ea1SANDHI GLOTTAL STOPa1RISING TONE LONG FINALa=",
   "FINALa1SANDHI GLOTTAL STOP FINALa8TONE LONGa;Ea< LONG FINALa=FINALa1MID-LEVEL TONEa1GLOTTAL STOP",
   " VARIANTa1MID-LEVEL TONE LONG FINALa@FINALa1LOW-FALLING TONE LONGa@Ea1GLOTTAL STOPa1LOW-FALLING ",
   "TONE LONG FINALaBFINALa1GLOTTAL STOP FINALh!DEVANAGARI HEAD MARKa9 WITH HEADSTROKEa0SIGN BHALEa:",
   " WITH HOOKa5EXTENDED BHALEaC WITH HOOKa5WESTERN FIVE-LIKE BHALEa=NINE-LIKE BHALEa5REVERSED NINE-",
   "LIKE BHALEa5MINDU!247!!BHAIKSUKI LETTER Aa7Aa6Ia7Ia6Ua7Ua6VOCALIC Ra?Ra>Lb6Ea6AIa6Oa6AUa6KAa7HAa",
   "6GAa7HAa6NGAa6CAa7HAa6JAa7HAa6NYAa6TTAa8HAa6DDAa8HAa6NNAa6TAa7HAa6DAa7HAa6NAa6PAa7HAa6BAa7HAa6MA",
   "a6YAa6RAa6LAa6VAa6SHAa7SAa7Aa6HAa.VOWEL SIGN AAa:Ia;Ia:Ua;Ua:VOCALIC RaCRaBLb:Ea:AIa:Oa:AUa.SIGN",
   " CANDRABINDUa4ANUSVARAa4VISARGAa6RAMAa4AVAGRAHAa.DANDAa0OUBLE DANDAa.WORD SEPARATORa.GAP FILLER-",
   "1a:2k.DIGIT ZEROa5ONEa5TWOa6HREEa5FOURa6IVEa5SIXa6EVENa5EIGHTa5NINEa.NUMBER ONEa6TWOa7HREEa6FOUR",
   "a7IVEa6SIXa7EVENa6EIGHTa6NINEa6TENa7WENTYa7HIRTYa6FORTYa7IFTYa6SIXTYa7EVENTYa6EIGHTYa6NINETYa.HU",
   "NDREDS UNIT MARKd!MARCHEN HEAD MARKa+MARK SHADa+LETTER KAa5HAa4GAa4NGAa4CAa5HAa4JAa4NYAa4TAa5HAa",
   "4DAa4NAa4PAa5HAa4BAa4MAa4TSAa6HAa4DZAa4WAa4ZHAa5Aa4-Aa4YAa4RAa4LAa4SHAa5Aa4HAa4Ac+SUBJOINED LETT",
   "ER KAa?HAa>GAa>NGAa>CAa?HAa>JAa>NYAa>TAa?HAa>DAa>NAa>PAa?HAa>BAa>MAa>TSAa@HAa>DZAa>WAa>ZHAa?Ab>Y",
   "Aa>RAa>LAa>SHAa?Aa>HAa>Aa+VOWEL SIGN AAa8Ia8Ua8Ea8Oa+SIGN ANUSVARAa2CANDRABINDU!74!$SARAM GONDI ",
   "LETTER Aa;Aa:Ia;Ia:Ua;Ua:Eb:AIa:Ob:AUa:KAa;HAa:GAa;HAa:NGAa:CAa;HAa:JAa;HAa:NYAa:TTAa<HAa:DDAa<H",
   "Aa:NNAa:TAa;HAa:DAa;HAa:NAa:PAa;HAa:BAa;HAa:MAa:YAa:RAa:LAa:VAa:SHAa;SAa;Aa:HAa:LLAa:KSSAa:JNYAa",
   ":TRAa3VOWEL SIGN AAa>Ia?Ia>Ua?Ua>VOCALIC Rd>Eb>AIa>Ob>AUa3SIGN ANUSVARAa8VISARGAa8NUKTAa8CANDRAa",
   "8HALANTAa3VIRAMAa3REPHAa4A-KARAi3DIGIT ZEROa9ONEa9TWOa:HREEa9FOURa:IVEa9SIXa:EVENa9EIGHTa9NINEg!",
   "GUNJALA GONDI LETTER Aa;Aa:Ia;Ia:Ua;Ub:EEa:AIb:OOa:AUa:YAa:VAa:BAa;HAa:MAa:KAa;HAa:TAa;HAa:LAa:G",
   "Aa;HAa:DAa;HAa:NAa:CAa;HAa:TTAa<HAa:LLAa:JAa;HAa:DDAa<HAa:NGAa:PAa;HAa:HAa:RAa:SAa3VOWEL SIGN AA",
   "a>Ia?Ia>Ua?Ub>EEa>AIb>OOa>AUa3SIGN ANUSVARAa8VISARGAa3VIRAMAa3OMh3DIGIT ZEROa9ONEa9TWOa:HREEa9FO",
   "URa:IVEa9SIXa:EVENa9EIGHTa9NINE!311!!MAKASAR LETTER KAa4GAa4NGAa4PAa4BAa4MAa4TAa4DAa4NAa4CAa4JAa",
   "4NYAa4YAa4RAa4LAa4VAa4SAa4Aa+ANGKAa+VOWEL SIGN Ia8Ua8Ea8Oa+PASSIMBANGa+END OF SECTIONh!KAWI SIGN",
   " CANDRABINDUa.ANUSVARAa.REPHAa.VISARGAa(LETTER Aa2Aa1Ia2Ia1Ua2Ua1VOCALIC Ra:Ra9La:La1Ea1AIa1Ob1K",
   "Aa2HAa1GAa2HAa1NGAa1CAa2HAa1JAa2HAa1NYAa1TTAa3HAa1DDAa3HAa1NNAa1TAa2HAa1DAa2HAa1NAa1PAa2HAa1BAa2",
   "HAa1MAa1YAa1RAa1LAa1WAa1SHAa2SAa2Aa1HAa1JNYAa(VOWEL SIGN AAa6LTERNATE AAa5Ia6Ia5Ua6Ua5VOCALIC Rd",
   "5Ea5AIa5EUa(SIGN KILLERa(CONJOINERa(DANDAa)OUBLE DANDAa(PUNCTUATION SECTION MARKERa6ALTERNATE SE",
   "CTION MARKERa6FLOWERa6SPACE FILLERa6DOTa8UBLE DOTa6TRIPLE DOTa6CIRCLEa6FILLED CIRCLEa6SPIRALa6CL",
   "OSING SPIRALa(DIGIT ZEROa0ONEa0TWOa1HREEa0FOURa1IVEa0SIXa1EVENa0EIGHTa0NINE!87!!LISU LETTER YHAp",
   "!TAMIL FRACTION ONE THREE-HUNDRED-AND-TWENTIETHa8ONE-HUNDRED-AND-SIXTIETHa8EIGHTIETHa8SIXTY-FOUR",
   "THa8FORTIETHa8THIRTY-SECONDa4THREE EIGHTIETHSa:SIXTY-FOURTHSa4ONE TWENTIETHa8SIXTEENTH-1aB2a8TEN",
   "THa8EIGHTHa4THREE TWENTIETHSa:SIXTEENTHSa4ONE FIFTHa8QUARTERa8HALF-1a=2a4THREE QUARTERSa4DOWNSCA",
   "LING FACTOR KIIZHa)SIGN NELa0CEVITUa0AAZHAAKKUa0UZHAKKUa0MUUVUZHAKKUa0KURUNIa0PATHAKKUa0MUKKURUN",
   "Ia0KAACUa0PANAMa1ONa0VARAAKANa0PAARAMa0KUZHIa0VELIa)WET CULTIVATION SIGNa)DRY CULTIVATION SIGNa)",
   "LAND SIGNa)SALT PAN SIGNa)TRADITIONAL CREDIT SIGNa7NUMBER SIGNa)CURRENT SIGNa)AND ODD SIGNa)SPEN",
   "T SIGNa)TOTAL SIGNa)IN POSSESSION SIGNa)STARTING FROM SIGNa*IGN MUTHALIYAa0VAKAIYARAAn)PUNCTUATI",
   "ON END OF TEXTa!CUNEIFORM SIGN Aa5 TIMES Aa<BADa<GAN2 TENUa<HAa<IGIa<LAGAR GUNUa<MUSHa<SAGa52a5B",
   "a6 TIMES ASH2a=DUN3 GUNUa=GALa?N2 TENUa=HAa=IGI GUNUa>MINa=LAGABa=SHESHa=U PLUS U PLUS Ua7GUNUa6",
   "2a7 TIMES BALAGa>GAN2 TENUa>ME PLUS ENa>SHA3a>TAK4a5Da5Ka6 TIMES ERIN2a=SHITA PLUS GISHa5La6 TIM",
   "ES ALa=DIM2a=GISHa=HAa=KAD3a>Ia=SHEa=USHa6ANa6EPHa5MARa8 TIMES SHEa5Na6 OVER ANa7THREE TIMESa7PL",
   "US NAGA OPPOSING AN PLUS NAGAaASQUAREDa6SHEa5PINa5RADa8 TIMES KURa6KABa5SAL2a6Ha7 ZIDA TENUa8KAB",
   "A TENUa8OVER ASH TUG2 OVER TUG2 TUG2 OVER TUG2 PAPaAOVER ASHaI CROSSING ASH OVER ASH OVER ASHa72",
   "a7GABa4BAa6Da6G3a6HAR2a6La7 OVER BALa7AGa6Ra7A2a5Ia6 TIMES Aa=GARa=IGI GUNUa5Ua6 OVER BU ABa?UNa",
   "7CROSSING BUa6LUGa9 OVER BULUGa6Ra72a4DAa6Ga7 KISIM5 TIMES A PLUS MASHaFMARaEBALAGaFIaEGAaG PLUS",
   " MASHaFIaGR2aFUDaEHAaEIRaG PLUS LUaEKAKaELAaFUaG PLUS MASH2aGMaENEaEPAP PLUS PAPaESIaETAK4aEU2 P",
   "LUS GIR2aFSHa6Ma6Ra7A3a84a5Ia6Ba6Ma7 TIMES SHEa72a6Na7 KASKAL U GUNU DISHa6SHa5Ua6 OVER DUa7GUNU",
   "a7SHESHIGa6Ba7 TIMES ESH2a72a6Ga7UDa6Ha6Na73a8 GUNUa= GUNUa74a6R2a4Ea5 TIMES PAPa6OVER E NUN OVE",
   "R NUNa52a6 TIMES A PLUS HA PLUS DAa=GARa=MIa=SALa>HEa=Ua5DINa5GIRa5La5Na6 TIMES GAN2aA TENUa=MEa",
   "7CROSSING ENa7OPPOSING ENa7SQUAREDa5RENa6IN2a5SH2a5ZENa8 TIMES Aa@ PLUS LALaI TIMES LALa@Na?BADa",
   "?DUN3 GUNUaH GUNUa?HAaA GUNUa?IGI GUNUa?KASKALaE SQUAREDa@U3a?LAaAL TIMES LALa@Ia@Ua?U2a@Da4GAa6",
   " GUNUa62a7 TIMES A PLUS DA PLUS HAaEHAaEIGIa?B2 TENU PLUS TABa?Na?SHaA2 PLUS GALa>BADa@R PLUS RA",
   "a?URaA PLUS RAa>DAa?Ia@M TIMES SHEa?UBa>ELa@ PLUS LAa?Na@ TIMES GAN2 TENUa>GAN2 TENUa@Ra?Ia@4aA ",
   "PLUS Aa@R2 PLUS SUa>HA PLUS LU PLUS ESH2a@LaA PLUS LAa?I PLUS LIa?UB2a>IGI GUNUa?SH PLUS HU PLUS",
   " ASHa>KAKa@SKALa?IDaA PLUS LALa?U3 PLUS ANa>LAa>ME PLUS ENa?Ia>NUNaA OVER NUNa>PAa>SALa@Ra?HEaA ",
   "PLUS TURa@IDa?UMa>TAK4a>Ua?Da@ PLUS DUa8OVER GA2a6BAa8 CROSSING GABAa6Da7 OVER GAD GAR OVER GARa",
   "6La7 GAD OVER GAD GAR OVER GARa7AMa6Ma6Na72a8 TENUa9OVER GAN2a9CROSSING GAN2a6Ra73a6SHANa5ESHTIN",
   "a; TIMES KURa5Ia6 TIMES Ea=Ua7CROSSING GIa64a7 OVER GI4a8CROSSING GI4a6DIMa6R2a8 GUNUa73a8 TIMES",
   " A PLUS IGIa?GAN2 TENUa?IGIa?LU PLUS IGIa?PAa6SALa7Ha8 CROSSING GISHa9TIMES BADa?TAK4a:ENUa5Ua6 ",
   "CROSSING GUa62a7 TIMES KAKaA TIMES IGI GUNUa>NUNa>SAL PLUS TUG2a8GUNUa6Da7 TIMES A PLUS KURa>KUR",
   "a8OVER GUD LUGALa6La6Ma7 TIMES SHEa6Ra77a7UNa8SHa4HAa6 TENUa7GUNUa6La5Ia6 TIMES ASHa@2a=BADa=DIS",
   "Ha=GADa=KINa=NUNa=SHEa=Ua5Ua6B2a8 TIMES ANa?HALa?KASKALa?LISHa?UDa6L2a4Ia5 Aa5Ba5DIMa8 OVER IDIM",
   " BURaCSQUAREDa5Ga6Ia7 DIBa8RIa8OVER IGI SHIR OVER SHIR UD OVER UDa8GUNUa5La6 TIMES GAN2 TENUa62a",
   "5Ma6 TIMES TAK4a7CROSSING IMa7OPPOSING IMa7SQUAREDa6INa5Na5Ra5SHa4KAa6 TIMES Aa>Da? PLUS KU3a>SH",
   "2a=BADa?LAGa?Ra>Ia=ERIN2a>SH2a=GAa?La?N2 TENUa?Ra@ PLUS SHA3 PLUS Aa>Ia?R2a?SH PLUS SARaBCROSSIN",
   "G GISHa>Ua?R7a=IGIa>Ma=KAKa>Ia?Da=LIa>Ua=MEa? PLUS DUaEGIaETEa>Ia? PLUS NUNUZa=NEa>UNa=PIa=RUa=S",
   "Aa?Ra>HAa?Ea?IDa?Ua>IGa>UHURa=TARa=Ua>2a>Da>MUM TIMES PAa>SHa=ZIa62a7 CROSSING KA2a6Ba6D2a73a74a",
   "75a8 OVER KAD5a6Ka7 TIMES IGI GUNUa6La7 TIMES BADa8CROSSING KALa6M2a74a6SKALa: LAGAB TIMES U OVE",
   "R LAGAB TIMES Ua;OVER KASKAL LAGAB TIMES U OVER LAGAB TIMES Ua5ESH2a5Ia6 TIMES BADa=Ua>Da6Da6Na6",
   "SALa7Ha7IM5a: OVER KISIM5a5Ua6 OVER HI TIMES ASH2 KU OVER HI TIMES ASH2a63a64a7 VARIANT FORMa67a",
   "6La7 GUNUa6Na6Ra7 OPPOSING KURa6SHU2a5WU318a4LAa6GABa9 TIMES AaA PLUS DA PLUS HAaGGARaGLALaALaAN",
   "aASH ZIDA TENUa@BADaAIa@DARa@ENa@GAaBRaAUDaC PLUS GUDa@HAaBLaAI TIMES NUNa@IGI GUNUaAMaB PLUS HA",
   "aHLUa@KIaBNaAU3aBLaC PLUS HI PLUS Aa@LAGABaAISHaAUaBLa@MEaB PLUS ENaAUSHa@NEa@SHE PLUS SUMaBITA ",
   "PLUS GISH PLUS ERIN2aPTENUaBU2aD PLUS SHU2aAUMa@TAGaBK4aAE PLUS A PLUS SU PLUS NAa@UaA PLUS AaGU",
   " PLUS UaA2 PLUS ASHaADaASHa:SQUAREDa8Ra9 TIMES SHEaC PLUS SUMa:GUNUa> OVER LAGAR GUNU SHEa6HSHUa",
   "6La7 TIMES LALa6Ma7 TIMES KURaA PLUS RUa5Ia6La6MMU2a6SHa5Ua6 TIMES BADa62a7 TIMES ALa>BADa>ESH2a",
   "B TENUa>GAN2 TENUa>HI TIMES BADa>IMa>KAD2aA3aB PLUS ASHa?Ia>LA PLUS ASHa@GABa>ME PLUS ENa>NEa?Ua",
   ">SI PLUS ASHa@K2 PLUS BUa>TUG2a9ENUa8CROSSING LU2a8OPPOSING LU2a8SQUAREDa9HESHIGa63a6GALa9 OVER ",
   "LUGALa;PPOSING LUGALa:SHESHIGa6Ha6La6Ma7 OVER LUMa@ GAR OVER GARa4MAa6 TIMES TAK4a7GUNUa62a6Ha6R",
   "a6SHa82a5Ea6Sa5Ia6Na5Ua6 OVER MUa6Ga7 GUNUa6NSUBa6RGU2a6SHa8 TIMES Aa?KURa?ZAa9OVER MUSHaB TIMES",
   " A PLUS NAa9CROSSING MUSHa83a9 TIMES AaA PLUS DIa@DIa:GUNUa4NAa62a6GAa8 INVERTEDa9TIMES SHU TENU",
   "a9OPPOSING NAGAa8Ra6M NUTILLUa6Ma72a5Ea6 TIMES Aa=UDa7SHESHIGa5Ia6 TIMES Ea62a6Ma7 TIMES GAN2 TE",
   "NUa@R PLUS GAN2 TENUa6NDA2a: TIMES ANaBSHaD PLUS ASHaAGUDaAME PLUS GAN2 TENUaANEaBUNaASHEaD PLUS",
   " A ANaKSHaM PLUS ASHaAU2 PLUS ASHaBSHa6SAGa5Ua611a6Na7 LAGAR TIMES GARaDMASHaDSALaG OVER NUN LAG",
   "AR TIMES SALaDUSHa8TENUa8OVER NUNa8CROSSING NUNaD LAGAR OVER LAGARa7UZa9 AB2 TIMES ASHGABaDBIaDD",
   "UGaDGUDaDIGI GUNUaDKAD3aDLAaDNEaDSILA3aDU2a:KISIM5 TIMES BIaI Ua4PAa6Da6Na6Pa5ESH2a5Ia6 TIMES Aa",
   ">Ba=BIa>Ua=Ea=Ia>Ba=Ua>2a7CROSSING PIa6RIGa9 TIMES KALa@UDa@ZAa:OPPOSING PIRIGa4RAa6Ba5Ia5Ua4SAa",
   "6G NUTILLUa6Ga7 TIMES Aa>DUa@Ba>HAa>KAKa?URa>LUMa>MIa>NUNa>SALa?HIDa>TABa>U2a?Ba?Ma?Ra?SHa8OVER ",
   "SAGa8GUNUa6La7 LAGAB TIMES ASH2a6NGA2a6Ra5HAa73a8 TIMES Aa?BADa?GISHa?NEa?SHU2a?TURa?Ua@ PLUS Aa",
   "76a7B6a7R2a6Ea7 HUa8OVER SHE GAD OVER GAD GAR OVER GARaATAB OVER TAB GAR OVER GARa7G9a7Na7SHa92a",
   "9LAMa6IDa8 TIMES Aa?IMa7Ma8 TIMES Aa?BALa@ULUGa?DINa?GARa?IGIaB GUNUa?KUSHU2a?LULa?MUGa?SALa7NIG",
   "a7Ra8 TENU!0!4NU11 TENUa4SHIR OVER SHIR BUR OVER BUR!0!4NU11 OVER NU11 BUR OVER BURa4SHITAa6Ua7 ",
   "OVER INVERTED SHUa72a7BURa5Ia6 GUNUa6Ga74a8 OVER SIG4 SHU2a6K2a6LA3a5Ua6 OVER SUa6Da72a6HURa6Ma7",
   "ASHa6Ra79a4TAa6 ASTERISKa7TIMES HIa=MIa7GUNUa6Ba7 OVER TAB NI OVER NI DISH OVER DISHa8SQUAREDa6G",
   "a7 TIMES BIa>GUDa>SHEa@Ua>TUG2a>UDa6K4a6Ra5Ea6 GUNUa5Ia6 TENUa6La6Ra7 TIMES TAK4a8OVER TIRa@ GAD",
   " OVER GAD GAR OVER GARa5Ua6G2a6Ka6Ma6Ra7 OVER TUR ZA OVER ZAa4Ua5 GUDa6U Ua6OVER U PA OVER PA GA",
   "R OVER GARa=SUR OVER SURa=U REVERSED OVER U REVERSEDa52a5Ba5Da6 KUSHU2a7TIMES BADa=MIa=U PLUS U ",
   "PLUS UaL GUNUa7GUNUa7SHESHIGa> TIMES BADa6UGa5Ma6 TIMES LAGABa=ME PLUS DAa=SHA3a=Ua6BINa6UMa8 TI",
   "MES KASKALa?PAa5Na6 GUNUa5Ra6 CROSSING URa7SHESHIGa62a7 TIMES A PLUS HAaENAa?La>HAa>NUNa>U2a@ PL",
   "US ASHaFBIa64a6Ia73a6Ua7 TIMES Aa?SHGABa>BARa>DUNa>GAa@La@N2 TENUa@Ra?Ua>HAa>IGIa?Ma?SHa>KIa>LUM",
   "a>MINa>PAa>SHEa?IG4a>TUa>U PLUS GUDa?Da?RUDAa7DAa9 TIMES Ua5SHa7 TIMES Aa>KUa@Ra>TAK4a7Xa72a7UMX",
   "a5TUKIa5Z3a7 TIMES KASKALa6Ua4ZAa6 TENUa7SQUARED TIMES KURa6Ga6MXa5E2a5Ia6 OVER ZIa63a6Ba7 KABA ",
   "TENUa6Ga6Z2a5Ua65a7 TIMES Aa6BURa6Ma4KAP ELAMITEa4AB TIMES NUNa62 TIMES Aa5MAR TIMES KUGa4DAG KI",
   "SIM5 TIMES U2 PLUS MASHa73a5ISH PLUS SHUa5UB TIMES SHEa4EZEN TIMES GUDa?SHEa4GA2 TIMES AN PLUS K",
   "AK PLUS Aa?SH2a5E22a5IGa4HUSHa4KA TIMES ANSHEa>SH3a=GISHa>UDa=HI TIMES ASH2a=LUMa=PAa=SHULa=TUa=",
   "UR2a4LAGAB TIMES GIa5U2 SHESHIG TIMES BADa8TIMES ESH2 PLUS LALa>SHUa4MESHa5USH3 TIMES ZAa4NA4a5I",
   "Na79a7DA2 TIMES BALaAGIa5U11 ROTATED NINETY DEGREESa4PESH2 ASTERISKa5IR2a4SAG TIMES IGI GUNUa4TI",
   "2a4UM TIMES MEa5 U!103!.NUMERIC SIGN TWO ASHa=HREE ASHa<FOUR ASHa=IVE ASHa<SIX ASHa=EVEN ASHa<EI",
   "GHT ASHa<NINE ASHa<THREE DISHa<FOUR DISHa=IVE DISHa<SIX DISHa=EVEN DISHa<EIGHT DISHa<NINE DISHa<",
   "FOUR Ua=IVE Ua<SIX Ua=EVEN Ua<EIGHT Ua<NINE Ua<ONE GESH2a<TWO GESH2a=HREE GESH2a<FOUR GESH2a=IVE",
   " GESH2a<SIX GESH2a=EVEN GESH2a<EIGHT GESH2a<NINE GESH2a<ONE GESHUa<TWO GESHUa=HREE GESHUa<FOUR G",
   "ESHUa=IVE GESHUa<TWO SHAR2a=HREE SHAR2aG VARIANT FORMa<FOUR SHAR2a=IVE SHAR2a<SIX SHAR2a=EVEN SH",
   "AR2a<EIGHT SHAR2a<NINE SHAR2a<ONE SHARUa<TWO SHARUa=HREE SHARUaG VARIANT FORMa<FOUR SHARUa=IVE S",
   "HARUa<SHAR2 TIMES GAL PLUS DISHaQMINa<ONE BURUa<TWO BURUa=HREE BURUaF VARIANT FORMa<FOUR BURUa=I",
   "VE BURUa<THREE VARIANT FORM ESH16aR21a<FOUR VARIANT FORM LIMMUaS4aS AaTBa<SIX VARIANT FORM ASH9a",
   "=EVEN VARIANT FORM IMIN3aS AaTBa<EIGHT VARIANT FORM USSUaS3a<NINE VARIANT FORM ILIMMUaT3aT4aT Aa",
   "<TWO ASH TENUa=HREE ASH TENUa<FOUR ASH TENUa=IVE ASH TENUa<SIX ASH TENUa<ONE BAN2a<TWO BAN2a=HRE",
   "E BAN2a<FOUR BAN2aE VARIANT FORMa=IVE BAN2aE VARIANT FORMa<NIGIDAMINaBESHa<ONE ESHE3a<TWO ESHE3a",
   "<ONE THIRD DISHa<TWO THIRDS DISHa<FIVE SIXTHS DISHa<ONE THIRD VARIANT FORM Aa<TWO THIRDS VARIANT",
   " FORM Aa<ONE EIGHTH ASHa@QUARTER ASHa=LD ASSYRIAN ONE SIXTHaMQUARTERa=NE QUARTER GURa@HALF GURa<",
   "ELAMITE ONE THIRDaDTWO THIRDSaDFORTYaEIFTYa<FOUR U VARIANT FORMa=IVE U VARIANT FORMa<SIX U VARIA",
   "NT FORMa=EVEN U VARIANT FORMa<EIGHT U VARIANT FORMa<NINE U VARIANT FORMb.PUNCTUATION SIGN OLD AS",
   "SYRIAN WORD DIVIDERa@VERTICAL COLONa@DIAGONAL COLONaITRICOLONaIQUADCOLONl.SIGN AB TIMES NUN TENU",
   "a=SHU2a5D TIMES ESH2a4BAD TIMES DISH TENUa6HAR2 TIMES AB2aANIaAZAa5U OVER BU TIMES NA2a4DA TIMES",
   " TAK4a6G TIMES KURa5IM TIMES IGIa>U U Ua72 TIMES UDa5UG TIMES ANSHEa?SHaA AT LEFTa>DINa?UNa>ERIN",
   "2a>GAa?Ia@R2 GUNUa@SHa>HAa?Ia>IGI GUNUa>KASKALa?URa@SHU2aD PLUS KASKALa>LAK-020a@MaA TIMES KURa?",
   "UH PLUS GISHa>MASHa?ESa?Ia>NIa>PIa>SHEa?I GUNUa4E2 TIMES KURa=PAPa5RIN2 Xa5SH2 CROSSING ESH2a5ZE",
   "N SHESHIG TIMES ASHaGHIaGIGI GUNUaGLAaILaGMEaISaGSUa9TIMES SUa4GA2 TIMES BAHAR2a>DIM GUNUa?UG TI",
   "MES IGI GUNUaHKASKALa>ERENa>GAa@R PLUS DIaGNEa>HA PLUS Aa>KUSHU2 PLUS KASKALa>LAMaA TIMES KURa?U",
   "Ha>MUSHa>NEa@ PLUS E2aFGIa>SHIMa>ZIZ2a6BA ROTATED NINETY DEGREESa5ESHTIN TIMES Ua5ISH TIMES GISH",
   " CROSSING GISHa5U2 TIMES IGI GUNUa6D PLUS GISH TIMES TAK4a4HA TENU GUNUa5I TIMES ASH OVER HI TIM",
   "ES ASHa4KA TIMES BUa=KAa=U U Ua>Ra4LAGAB TIMES ZU OVER ZUa6K-003a921a:5a930a950a:1a962a979 OVER ",
   "LAK-079 GUNUa980a:1 OVER LAK-081a992a8130a942a8210a:9a920a:5a:8a938a965a:6a8343a:7a:8a983a:4a990",
   "a8441a:9a; TIMES GUaBIGIaBPAP PLUS LU3aKPAP PLUS LU3aBU2 PLUS BAa950a:7a970a983a990a:2a:3a:5a855",
   "0a8608a917a; TIMES ASHaBBADaBDUN3 GUNU GUNUaBKU3aBLAaBTARaCEaBU2aCDaCRUDAa936a948a; TIMES DUBaBG",
   "AaBIGIaE GUNUaBNIaBPAP PLUS PAP PLUS LU3aBSHESH PLUS KIaBUDaCRUDAa8724a949a5U2 GUNU TIMES ASHa8T",
   "IMES DISHa>HALa>PAPaA PLUS PAP PLUS LU3a>TAK4a4MI PLUS ZA7a5USH OVER MUSH TIMES GAaIKAKa4NINDA2 ",
   "TIMES DIM GUNUaAGISHaBULaAHIaAKESH2aALAK-050aAMASHaAPAP PLUS PAPaAUaB PLUS UaBRUDAa4SAG GUNU TIM",
   "ES HAa8TIMES ENa>SHE AT LEFTa>TAK4a5HA6 TENUa6E OVER SHEa8PLUS HUB2a=NAM2a=SARa6U2 PLUS DUG TIME",
   "S NIa>E2 TIMES ANa5I TIMES TAK4a4TAK4 PLUS SAGa5UM TIMES GAN2 TENUa>THREE DISHa4UR2 INVERTEDa8TI",
   "MES UDa6U TIMES DARA3a>LAK-668a?U3a4ZA7a5U OVER ZU PLUS SARa65 TIMES THREE DISH TENU!2637!#YPRO-",
   "MINOAN SIGN CM001a;2a;4a;5a;6a;7a;8a;9a:10a;1a;2a<Ba;3a;5a;7a;9a:21a;3a;4a;5a;6a;7a;8a;9a:30a;3a",
   ";4a;5a;6a;7a;8a;9a:40a;1a;4a;6a;7a;9a:50a;1a;2a;3a;4a;5a;6a;8a;9a:60a;1a;2a;3a;4a;6a;7a;8a;9a:70",
   "a;1a;2a;3a;4a;5a<Ba;6a;8a;9a:80a;1a;2a;3a;4a;5a;6a;7a;8a;9a:90a;1a;2a;4a;5a;6a;7a;8a;9a9100a;1a;",
   "2a;3a;4a;5a;7a;8a;9a:10a;2a;4a9301a;2n!EGYPTIAN HIEROGLYPH A001a<2a<3a<4a<5a=Aa<6a=Aa=Ba<7a<8a<9",
   "a;10a<1a<2a<3a<4a=Aa<5a<6a<7a=Aa<8a<9a;20a<1a<2a<3a<4a<5a<6a<7a<8a<9a;30a<1a<2a=Aa<3a<4a<5a<6a<7",
   "a<8a<9a;40a=Aa<1a<2a=Aa<3a=Aa<4a<5a=Aa<6a<7a<8a<9a;50a<1a<2a<3a<4a<5a<6a<7a<8a<9a;60a<1a<2a<3a<4",
   "a<5a<6a<7a<8a<9a;70a9B001a<2a<3a<4a<5a=Aa<6a<7a<8a<9a9C001a<2a=Aa=Ba=Ca<3a<4a<5a<6a<7a<8a<9a;10a",
   "=Aa<1a<2a<3a<4a<5a<6a<7a<8a<9a;20a<1a<2a<3a<4a9D001a<2a<3a<4a<5a<6a<7a<8a=Aa<9a;10a<1a<2a<3a<4a<",
   "5a<6a<7a<8a<9a;20a<1a<2a<3a<4a<5a<6a<7a=Aa<8a<9a;30a<1a=Aa<2a<3a<4a=Aa<5a<6a<7a<8a<9a;40a<1a<2a<",
   "3a<4a<5a<6a=Aa<7a<8a=Aa<9a;50a=Aa=Ba=Ca=Da=Ea=Fa=Ga=Ha=Ia<1a<2a=Aa<3a<4a=Aa<5a<6a<7a<8a<9a;60a<1",
   "a<2a<3a<4a<5a<6a<7a=Aa=Ba=Ca=Da=Ea=Fa=Ga=Ha9E001a<2a<3a<4a<5a<6a<7a<8a=Aa<9a=Aa;10a<1a<2a<3a<4a<",
   "5a<6a=Aa<7a=Aa<8a<9a;20a=Aa<1a<2a<3a<4a<5a<6a<7a<8a=Aa<9a;30a<1a<2a<3a<4a=Aa<6a<7a<8a9F001a=Aa<2",
   "a<3a<4a<5a<6a<7a<8a<9a;10a<1a<2a<3a=Aa<4a<5a<6a<7a<8a<9a;20a<1a=Aa<2a<3a<4a<5a<6a<7a<8a<9a;30a<1",
   "a=Aa<2a<3a<4a<5a<6a<7a=Aa<8a=Aa<9a;40a<1a<2a<3a<4a<5a=Aa<6a=Aa<7a=Aa<8a<9a;50a<1a=Aa=Ba=Ca<2a<3a",
   "9G001a<2a<3a<4a<5a<6a=Aa<7a=Aa=Ba<8a<9a;10a<1a=Aa<2a<3a<4a<5a<6a<7a<8a<9a;20a=Aa<1a<2a<3a<4a<5a<",
   "6a=Aa<7a<8a<9a;30a<1a<2a<3a<4a<5a<6a=Aa<7a=Aa<8a<9a;40a<1a<2a<3a=Aa<4a<5a=Aa<6a<7a<8a<9a;50a<1a<",
   "2a<3a<4a9H001a<2a<3a<4a<5a<6a=Aa<7a<8a9I001a<2a<3a<4a<5a=Aa<6a<7a<8a<9a=Aa;10a=Aa<1a=Aa<2a<3a<4a",
   "<5a9K001a<2a<3a<4a<5a<6a<7a<8a9L001a<2a=Aa<3a<4a<5a<6a=Aa<7a<8a9M001a=Aa=Ba<2a<3a=Aa<4a<5a<6a<7a",
   "<8a<9a;10a=Aa<1a<2a=Aa=Ba=Ca=Da=Ea=Fa=Ga=Ha<3a<4a<5a=Aa<6a=Aa<7a=Aa<8a<9a;20a<1a<2a=Aa<3a<4a=Aa<",
   "5a<6a<7a<8a=Aa<9a;30a<1a=Aa<2a<3a=Aa=Ba<4a<5a<6a<7a<8a<9a;40a=Aa<1a<2a<3a<4a9N001a<2a<3a<4a<5a<6",
   "a<7a<8a<9a;10a<1a<2a<3a<4a<5a<6a<7a<8a=Aa=Ba<9a;20a<1a<2a<3a<4a<5a=Aa<6a<7a<8a<9a;30a<1a<2a<3a=A",
   "a<4a=Aa<5a=Aa<6a<7a=Aa<8a<9a;40a<1a<2a:L001a=2a=3a=4a=5a>Aa=6a=7a=8a=9a<10a=1a=2a=3a=4a=5a=6a=7a",
   ">Aa=8a=9a<20a:U001a=2a=3a=4a=5a=6a=7a=8a=9a<10a>Aa=1a>Aa=2a=3a=4a=5a=6a=7a=8a>Aa=9a<20a=1a=2a>Aa",
   "9O001a=Aa<2a<3a<4a<5a=Aa<6a=Aa=Ba=Ca=Da=Ea=Fa<7a<8a<9a;10a=Aa=Ba=Ca<1a<2a<3a<4a<5a<6a<7a<8a<9a=A",
   "a;20a=Aa<1a<2a<3a<4a=Aa<5a=Aa<6a<7a<8a<9a=Aa;30a=Aa<1a<2a<3a=Aa<4a<5a<6a=Aa=Ba=Ca=Da<7a<8a<9a;40",
   "a<1a<2a<3a<4a<5a<6a<7a<8a<9a;50a=Aa=Ba<1a9P001a=Aa<2a<3a=Aa<4a<5a<6a<7a<8a<9a;10a<1a9Q001a<2a<3a",
   "<4a<5a<6a<7a9R001a<2a=Aa<3a=Aa=Ba<4a<5a<6a<7a<8a<9a;10a=Aa<1a<2a<3a<4a<5a<6a=Aa<7a<8a<9a;20a<1a<",
   "2a<3a<4a<5a<6a<7a<8a<9a9S001a<2a=Aa<3a<4a<5a<6a=Aa<7a<8a<9a;10a<1a<2a<3a<4a=Aa=Ba<5a<6a<7a=Aa<8a",
   "<9a;20a<1a<2a<3a<4a<5a<6a=Aa=Ba<7a<8a<9a;30a<1a<2a<3a<4a<5a=Aa<6a<7a<8a<9a;40a<1a<2a<3a<4a<5a<6a",
   "9T001a<2a<3a=Aa<4a<5a<6a<7a=Aa<8a=Aa<9a=Aa;10a<1a=Aa<2a<3a<4a<5a<6a=Aa<7a<8a<9a;20a<1a<2a<3a<4a<",
   "5a<6a<7a<8a<9a;30a<1a<2a=Aa<3a=Aa<4a<5a<6a9U001a<2a<3a<4a<5a<6a=Aa=Ba<7a<8a<9a;10a<1a<2a<3a<4a<5",
   "a<6a<7a<8a<9a;20a<1a<2a<3a=Aa<4a<5a<6a<7a<8a<9a=Aa;30a<1a<2a=Aa<3a<4a<5a<6a<7a<8a<9a;40a<1a<2a9V",
   "001a=Aa=Ba=Ca=Da=Ea=Fa=Ga=Ha=Ia<2a=Aa<3a<4a<5a<6a<7a=Aa=Ba<8a<9a;10a<1a=Aa=Ba=Ca<2a=Aa=Ba<3a<4a<",
   "5a<6a<7a<8a<9a;20a=Aa=Ba=Ca=Da=Ea=Fa=Ga=Ha=Ia=Ja=Ka=La<1a<2a<3a=Aa<4a<5a<6a<7a<8a=Aa<9a=Aa;30a=A",
   "a<1a=Aa<2a<3a=Aa<4a<5a<6a<7a=Aa<8a<9a;40a=Aa9W001a<2a<3a=Aa<4a<5a<6a<7a<8a<9a=Aa;10a=Aa<1a<2a<3a",
   "<4a=Aa<5a<6a<7a=Aa<8a=Aa<9a;20a<1a<2a<3a<4a=Aa<5a9X001a<2a<3a<4a=Aa=Ba<5a<6a=Aa<7a<8a=Aa9Y001a=A",
   "a<2a<3a<4a<5a<6a<7a<8a9Z001a<2a=Aa=Ba=Ca=Da<3a=Aa=Ba<4a=Aa<5a=Aa<6a<7a<8a<9a;10a<1a<2a<3a<4a<5a=",
   "Aa=Ba=Ca=Da=Ea=Fa=Ga=Ha=Ia<6a=Aa=Ba=Ca=Da=Ea=Fa=Ga=Ha9AA001a=2a=3a=4a=5a=6a=7a>Aa>Ba=8a=9a<10a=1",
   "a=2a=3a=4a=5a=6a=7a=8a=9a<20a=1a=2a=3a=4a=5a=6a=7a=8a=9a<30a=1a=2a9V011Da:ERTICAL JOINERa9HORIZO",
   "NTAL JOINERa9INSERT AT TOP STARTaCBOTTOM STARTaCTOP ENDaCBOTTOM ENDa9OVERLAY MIDDLEa9BEGIN SEGME",
   "NTa9END SEGMENTa9INSERT AT MIDDLEaCTOPaCBOTTOMa9BEGIN ENCLOSUREa9END ENCLOSUREa9BEGIN WALLED ENC",
   "LOSUREa9END WALLED ENCLOSUREa9MIRROR HORIZONTALLYa9FULL BLANKa9HALF BLANKa9LOST SIGNa9HALF LOST ",
   "SIGNa9TALL LOST SIGNa9WIDE LOST SIGNa9MODIFIER DAMAGED AT TOP STARTaMBOTTOM STARTaMSTARTaMTOP EN",
   "DaOPaMBOTTOM START AND TOP ENDaMSTART AND TOPaMBOTTOM ENDaMTOP START AND BOTTOM ENDaMBOTTOMaMSTA",
   "RT AND BOTTOMaMENDaMTOP AND ENDaMBOTTOM AND ENDaHD!4011!!ANATOLIAN HIEROGLYPH A001a=2a=3a=4a=5a=",
   "6a=7a=8a=9a<10a>Aa=1a=2a=3a=4a=5a=6a=7a=8a=9a<20a=1a=2a=3a=4a=5a=6a>Aa=7a=8a=9a<30a=1a=2a=3a=4a=",
   "5a=6a=7a=8a=9a>Aa<40a=1a>Aa=2a=3a=4a=5a>Aa=6a>Aa>Ba=7a=8a=9a<50a=1a=2a=3a=4a=5a=6a=7a=8a=9a<60a=",
   "1a=2a=3a=4a=5a=6a>Aa>Ba>Ca=7a=8a=9a<70a=1a=2a=3a=4a=5a=6a=7a=8a=9a<80a=1a=2a=3a=4a=5a=6a=7a=8a=9",
   "a<90a=1a=2a=3a=4a=5a=6a=7a>Aa=8a>Aa=9a;100a>Aa=1a>Aa=2a>Aa=3a=4a>Aa>Ba>Ca=5a>Aa>Ba=6a=7a>Aa>Ba>C",
   "a=8a=9a<10a>Aa>Ba=1a=2a=3a=4a=5a>Aa=6a=7a=8a=9a<20a=1a=2a=3a=4a=5a>Aa=6a=7a=8a=9a<30a=1a=2a=3a=4",
   "a=5a>Aa=6a=7a=8a=9a<40a=1a=2a=3a=4a=5a=6a=7a=8a=9a<50a=1a=2a=3a=4a=5a=6a=7a=8a=9a<60a=1a=2a=3a=4",
   "a=5a=6a=7a=8a=9a<70a=1a=2a=3a=4a=5a=6a=7a=8a=9a<80a=1a=2a=3a=4a=5a=6a=7a=8a=9a<90a=1a=2a=3a=4a=5",
   "a=6a=7a=8a=9a;200a=1a=2a>Aa>Ba=3a=4a=5a=6a=7a>Aa=8a=9a>Aa<10a=1a=2a=3a=4a=5a>Aa=6a>Aa=7a=8a=9a<2",
   "0a=1a=2a=3a=4a=5a=6a=7a>Aa=8a=9a<30a=1a=2a=3a=4a=5a=6a=7a=8a=9a<40a=1a=2a=3a=4a=5a=6a=7a=8a=9a<5",
   "0a=1a=2a=3a=4a=5a=6a=7a=8a=9a<60a=1a=2a=3a=4a=5a=6a=7a>Aa=8a=9a<70a=1a=2a=3a=4a=5a=6a=7a=8a=9a<8",
   "0a=1a=2a=3a=4a=5a=6a=7a=8a=9a>Aa<90a=1a=2a=3a=4a>Aa=5a=6a=7a=8a=9a>Aa;300a=1a=2a=3a=4a=5a=6a=7a=",
   "8a=9a>Aa<10a=1a=2a=3a=4a=5a=6a=7a=8a=9a<20a=1a=2a=3a=4a=5a=6a=7a=8a=9a>Aa<30a=1a=2Aa>Ba>Ca=3a=4a",
   "=5a=6a>Aa>Ba>Ca=7a=8a=9a<40a=1a=2a=3a=4a=5a=6a=7a=8a=9a<50a=1a=2a=3a=4a=5a=6a=7a=8a=9a>Aa<60a=1a",
   "=2a=3a=4a>Aa=5a=6a=7a=8a>Aa=9a<70a=1a>Aa=2a=3a=4a=5a=6a=7a=8a=9a<80a=1a>Aa=2a=3 RA OR RIa>Aa=4a=",
   "5a=6a>Aa=7a=8a=9a<90a=1a=2a=3 EIGHTa=4a=5a=6a=7a=8a=9a;400a=1a=2a=3a=4a=5a=6a=7a=8a=9a<10 BEGIN ",
   "LOGOGRAM MARKa>A END LOGOGRAM MARKa=1a=2a=3a=4a=5a=6a=7a=8a=9a<20a=1a=2a=3a=4a=5a=6a=7a=8a=9a<30",
   "a=1a=2a=3a=4a=5a=6a=7a=8a=9a<40a=1a=2a=3a=4a=5a=6a=7a=8a=9a<50a>Aa=1a=2a=3a=4a=5a=6a=7a>Aa=8a=9a",
   "<60a=1a=2a=3a=4a=5a=6a=7a=8a=9a<70a=1a=2a=3a=4a=5a=6a=7a=8a=9a<80a=1a=2a=3a=4a=5a=6a=7a=8a=9a<90",
   "a=1a=2a=3a=4a=5a=6a=7a;501a=2a=3a=4a=5a=6a=7a=8a=9a<10a=1a=2a=3a=4a=5a=6a=7a=8a=9a<20a=1a=2a=3a=",
   "4a=5a=6a=7a=8a=9a<30!8634!!BAMUM LETTER PHASE-A NGKUE MFONa:GBIEE FONa:PON MFON PIPAEMGBIEEaIBAa",
   ":NAA MFONa:SHUENSHUETa:TITA MFONa:NZA MFONa:SHINDA PA NJIa:PON PA NJI PIPAEMGBIEEaKBAa:MAEMBGBIE",
   "Ea:TU MAEMBAa:NGANGUa:MAEMVEUXa<NSUAEa;VEUAENGAMa:SEUNYAMa:NTOQPENa:KEUKEUTNDAa:NKINDIa:SUUa:NGK",
   "UENZEUMa:LAPAQa;ET KUTa:NTAP MFAAa:MAEKEUPa:PASHAEa:GHEUAERAEa:PAMSHAEa:MON NGGEUAETa:NZUN MEUTa",
   ":U YUQ NAEa:GHEUAEGHEUAEa:NTAP NTAAa:SISAa:MGBASAa;EUNJOMNDEUQa;OOMPUQa:KAFAa:PA LEERAEWAa:NDA L",
   "EERAEWAa:PETa:MAEMKPENa:NIKAa:PUPa:TUAEPa:LUAEPa:SONJAMa:TEUTEUWENa:MAENYIa:KETa:NDAANGGEUAETa:K",
   "UOQa:MOOMEUTa:SHUMa:LOMMAEa:FIRIa:ROMa:KPOQa:SOQa:MAP PIEETa:SHIRAEa:NTAPa:SHOQ NSHUT YUMa:NYIT ",
   "MONGKEUAEQa:PAARAEa:NKAARAEa:UNKNOWNa:NGGENa:MAESIa:NJAMa:MBANYIa:NYETa:TEUAENa:SOTa:PAAMa:NSHIE",
   "Ea:MAEMa:NYIa:KAQa:NSHAa:VEEa:LUa:NENa;AQa:MBAQa8B NSHUETa:TU MAEMGBIEEa:SIEEa;ET TUa:LOM NTEUMa",
   ":MBA MAELEEa:KIEEMa:YEURAEa:MBAARAEa:KAMa:PEESHIa:YAFU LEERAEWAa:LAM NSHUT NYAMa:NTIEE SHEUOQa;D",
   "U NJAAa:GHEUGHEUAEMa:PITa:TU NSIEEa:SHET NJAQa=UAEQTUa:MFON TEUAEQa;BIT MBAAKETa:NYI NTEUMa:KEUP",
   "UQa:GHEUGHENa:KEUYEUXa:LAANAEa:PARUMa:VEUMa:NGKINDI MVOPa<GEU MBUa:WUAETa:SAKEUAEa:TAAMa:MEUQa:N",
   "GGUOQa@ LARGEa:MFIYAQa:SUEa:MBEURIa;ONTIEENa:NYAEMAEa:PUNGAAMa:MEUT NGGEETa:FEUXa:MBUOQa:FEEa:KE",
   "UAEMa:MA NJEUAENAa?UQAa:LETa:NGGAAMa;SENa:MAa:KIQa:NGOMa8C NGKUE MAEMBAa;ZAa:YUMa:WANGKUOQa:NGGE",
   "Na;DEUAEREEa;GKAQa:GHARAEa:MBEEKEETa:GBAYIa:NYIR MKPARAQ MEUNa;TU MBITa:MBEUMa:PIRIEENa:NDOMBUa:",
   "MBAA CABBAGE-TREEa:KEUSHEUAEPa:GHAPa:KEUKAQa:YU MUOMAEa:NZEUMa:MBUEa:NSEUAENa:MBITa:YEUQa:KPARAQ",
   "a;AAa:SEUXa:NDIDAa:TAASHAEa:NJUEQa:TITA YUEa:SUAETa:NGGUAEN NYAMa:VEUXa:NANSANAQa:MA KEUAERIa:NT",
   "AAa;GGUONa:LAPa:MBIRIEENa;GBASAQa:NTEUNGBAa:TEUTEUXa:NGGUMa:FUEa:NDEUTa;SAa<HAQa:BUNGa:VEUAEPENa",
   ":MBERAEa:RUa:NJAEMa:LAMa:TITUAEPa:NSUOT NGOMa;JEEEEa:KETa:NGGUa:MAESIa;BUAEMa:LUa:KUTa:NJAMa;GOM",
   "a:WUPa:NGGUEETa;SOMa;TENa:KUOP NKAARAEa:NSUNa;DAMa:MA NSIEEa:YAAa:NDAPa:SHUEQa;ETFONa:MBIa;AEMBA",
   "a;BANYIa:KEUSEUXa:MBEUXa:KEUMa:MBAA PICKETa:YUWOQa:NJEUXa:MIEEa;UAEa:SHIQa:KEN LAWa>FATIGUEa:NGA",
   "Qa;AQa:LIQa:PINa;ENa:TETa8D MBUOa:WAPa:NJIa:MFONa:NJIEEa:LIEEa:NJEUTa;SHEEa;GGAAMAEa;YAMa:WUAENa",
   ":NGKUNa:SHEEa:NGKAPa:KEUAETMEUNa:TEUTa:SHEUAEa:NJAPa:SUEa:KETa:YAEMMAEa:KUOMa:SAPa:MFEUTa:NDEUXa",
   ":MALEERIa;EUTa:SEUAEQa:YENa:NJEUAEMa:KEUOT MBUAEa:NGKEURIa:TUa:GHAAa:NGKYEEa:FEUFEUAETa:NDEEa:MG",
   "BOFUMa:LEUAEPa:NDONa:MONIa;GBEUNa:PUUTa:MGBIEEa;FOa:LUMa:NSIEEPa:MBAAa:KWAETa:NYETa:TEUAENa:SOTa",
   ":YUWOQa:KEUMa:RAEMa:TEEEEa:NGKEUAEQa:MFEUAEa:NSIEETa:KEUPa:PIPa;EUTAEa:NYUEa:LETa:NGGAAMa:MFIEEa",
   ":NGGWAENa:YUOMa:PAPa:YUOPa:NDAMa;TEUMa:SUAEa:KUNa:NGGEUXa<KIEEa:TUOTa:MEUNa:KUQa:NSUMa:TEUNa:MAE",
   "NJETa:NGGAPa:LEUMa:NGGUOMa;SHUTa;JUEQa:GHEUAEa:KUa:REN OLDa:TAEa;OQa:NYIa:RIIa:LEEEEa:MEEEEa:Ma:",
   "SUUa:MUa:SHIIa<EUXa:KYEEa:NUa:SHUa:NTEEa:PEEa:NIa:SHOQa:PUQa:MVOPa:LOQa:REN MUCHa:TIa:NTUUa:MBAA",
   " SEVENa:SAQa:FAAa8E NDAPa:TOONa:MBEUMa:LAPa:VOMa:LOONa:PAAa:SOMa:RAQa:NSHUOPa;DUNa:PUAEa:TAMa:NG",
   "KAa:KPEUXa:WUOa:SEEa:NGGEUAETa:PAAMa:TOOa:KUOPa:LOMa:NSHIEEa;GOPa:MAEMa:NGKEUXa<OQa;SHUEa:RIMGBA",
   "a:NJEUXa:PEEMa:SAAa:NGGURAEa:MGBAa:GHEUXa:NGKEUAEMa;JAEMLIa:MAPa:LOOTa:NGGEEEEa;DIQa:TAEN NTEUMa",
   ":SETa:PUMa:NDAA SOFTNESSa;GGUAESHAE NYAMa:YIEEa:GHEUNa:TUAEa:YEUAEa:POa:TUMAEa:KEUAEa:SUAENa:TEU",
   "AEQa:VEUAEa:WEUXa:LAAMa:PUa:TAAQa:GHAAMAEa:NGEUREUTa:SHEUAEQa:MGBENa;BEEa:NZAQa;KOMa:GBETa:TUMa:",
   "KUETa:YAPa:NYI CLEAVERa:YITa:MFEUQa:NDIAQa:PIEEQa:YUEQa:LEUAEMa:FUEa:GBEUXa:NGKUPa:KETa:MAEa:NGK",
   "AAMIa:GHETa:FAa:NTUMa:PEUTa:YEUMa:NGGEUAEa;YI BETWEENa;ZUQa:POONa:MIEEa:FUETa:NAEa:MUAEa:GHEUAEa",
   ":FU Ia:MVIa:PUAQa:NGKUMa:KUTa:PIETa:NTAPa:YEUAETa:NGGUPa:PA PEOPLEa:FU CALLa;OMa:NJEEa:Aa:TOQa:O",
   "a:Ia:LAQa:PA PLURALa:TAAa<Qa:NDAA MY HOUSEa:SHIQa:YEUXa:NGUAEa:YUAENa;OQ SWIMMINGa>COVERa;UQa<Na",
   ":KEUXa:PEUXa:NJEE EPOCHa:PUEa:WUEa:FEEa:VEEa:LUa:MIa:REUXa;AEa:NGUAETa<Aa:SHOa=Qa:FU REMEDYa:NAa",
   ":PIa:LOQa:KOa:MENa;Aa<Qa:TEUa:KIa:MONa:TENa:FAQa:GHOMa8F KAa:Ua:KUa:EEa:REEa:TAEa:NYIa:LAa:RIIa<",
   "EEa:MEEEEa:TAAa:NDAAa;JAEMa:Ma:SUUa;HIIa;Ia;EUXa:KYEEa;ETa:NUAEa;Ua;JUAEa:YOQa:SHUa:YAa:NSHAa:PE",
   "UXa:NTEEa:WUEa:PEEa:RUa:NIa:REUXa:KENa:NGKWAENa<GAa:SHOa:PUAEa:FOMa:WAa:LIa;OQa:KOa:MBENa:RENa:M",
   "Aa;Oa;BAAa:TETa:KPAa:SAMBAa:VUEQh!MRO LETTER TAa0NGIa0YOa0MIMa0BAa0DAa0Aa0PHIa0KHAIa0HAOa0DAIa0C",
   "HUa0KEAAEa0OLa0MAEMa0NINa0PAa0OOa0Oa0ROa0SHIa0THEAa0EAa0WAa0Ea0KOa0LANa1Aa0HAIa0RIa0TEKb&DIGIT Z",
   "EROa.ONEa.TWOa0HREEa.FOURa0IVEa.SIXa0EVENa.EIGHTa.NINEe(ANDAa(OUBLE DANDAa!TANGSA LETTER OZa4Ca4",
   "Qa4Xa3AZa4Ca4Qa4Xa3VZa4Ca4Qa4Xa3EZa4Ca4Qa4Xa3IZa4Ca4Qa4Xa3UZa4Ca4Qa4Xa3AWZa5Ca5Qa5Xa3UIZa5Ca5Qa5",
   "Xa3FINAL NGa3LONG UEXa3SHORT UEZa9AWXa3UECa5Za5Qa5Xa4IUZa6Ca6Qa6Xa3MZa4Ca4Qa4Xa3KAa4HAa3GAa3NGAa",
   "3SAa3YAa3WAa3PAa3NYAa3PHAa3BAa3MAa3NAa3HAa3LAa3HTAa3TAa3DAa3RAa3NHAa3SHAa3CAa3TSAa3GHAa3HTTAa3TH",
   "Aa3XAa3FAa3DHAa3CHAa3ZAb*DIGIT ZEROa2ONEa2TWOa3HREEa2FOURa3IVEa2SIXa3EVENa2EIGHTa2NINEg!BASSA VA",
   "H LETTER ENNIa6KAa6SEa6FAa6MBEa6YIEa6GAHa6DHIIa6KPAHa6JOa6HWAHa6WAa6ZOa6GBUa6DOa6CEa6UWUa6TOa6BA",
   "a6VUa6YEINa6PAa6WADDAa6Aa6Oa7Oa6Ua6EEa6Ea6Ic.COMBINING HIGH TONEa9LOW TONEa9MID TONEa9LOW-MID TO",
   "NEa9HIGH-LOW TONEa.FULL STOPk!PAHAWH HMONG VOWEL KEEBa;Va9IBa:Va9AUBa;Va9UBa:Va9EBa:Va9AIBa;Va9O",
   "OBa;Va9AWBa;Va9UABa;Va9OBa:Va9IABa;Va9ABa:Va9WBa:Va9AABa;Va2CONSONANT VAUa<NTSAUa<LAUa<HAUa<NLAU",
   "a<RAUa<NKAUa<QHAUa<YAUa<HLAUa<MAUa<CHAUa<NCHAUa<HNAUa<PLHAUa<NTHAUa=AUa<AUa<XAUa<CAUa2MARK CIM T",
   "UBa;SOa;KESa<HAVa;SUAMa;HOMa;TAUMa2SIGN VOS THOMa<SHAB CEEBa7CIM CHEEMa7VOS THIABa;FEEMa7XYEEM N",
   "TXIVa=RHOa=TOVa=FAIBa7VOS SEEVa7MEEJ SUABa7VOS NRUAa7IB YAMa7XAUSa7CIM TSOV ROGk2DIGIT ZEROa8ONE",
   "a8TWOa9HREEa8FOURa9IVEa8SIXa9EVENa8EIGHTa8NINEb2NUMBER TENSa9HUNDREDSa9TEN THOUSANDSa9MILLIONSa9",
   "HUNDRED MILLIONSa9TEN BILLIONSa:RILLIONSb2SIGN VOS LUBa7XYOOa7HLIa7THIRD-STAGE HLIa7ZWJ THAJa7HN",
   "UBa7NQIGa7XIABa7NTUJa7AVa7TXHEEJ CEEVa7MEEJ TSEEBa7TAUa7LOSa7MUSa7CIM HAIS LUS NTOG NTOGa;CUAM T",
   "SHOOJa;TXWVa? CHWVa;PUB DAWBa;NRES TOSf2CLAN SIGN TSHEEJa<YEEGa<LISa=AUJa<XYOOJa<KOOa<HAWJa<MUAS",
   "a<THOJa=SABa<PHABa<KHABa<HAMa<VAJa<FAJa<YAJa<TSWBa<KWMa<VWJ!689!!MEDEFAIDRIN CAPITAL LETTER Ma@S",
   "a@Va@Wa@ATIUa@Za@KPa@Pa@Ta@Ga@Fa@Ia@Ka@Aa@Ja@Ea@Ba@Ca@Ua@YUa@La@Qa@HP!0!@Ha@NY!0!AGa@Xa@Da@OEa@N",
   "a@Ra@Oa@AIa@Ya1SMALL LETTER Ma>Sa>Va>Wa>ATIUa>Za>KPa>Pa>Ta>Ga>Fa>Ia>Ka>Aa>Ja>Ea>Ba>Ca>Ua>YUa>La>",
   "Qa>HP!0!>Ha>NY!0!?Ga>Xa>Da>OEa>Na>Ra>Oa>AIa>Ya1DIGIT ZEROa7ONEa7TWOa8HREEa7FOURa8IVEa7SIXa8EVENa",
   "7EIGHTa7NINEa1NUMBER TENa8ELEVENa8TWELVEa9HIRTEENa8FOURTEENa9IFTEENa8SIXTEENa9EVENTEENa8EIGHTEEN",
   "a8NINETEENa1DIGIT ONE ALTERNATE FORMa7TWO ALTERNATE FORMa8HREE ALTERNATE FORMa1COMMAa1FULL STOPa",
   "1SYMBOL AIVAa1EXCLAMATION OH!102!#IAO LETTER PAa1BAa1YI PAa1PLAa1MAa2HAa1ARCHAIC MAa1FAa1VAa2FAa",
   "1TAa1DAa1YI TTAa5Aa1TTAa1DDAa1NAa2HAa1YI NNAa1ARCHAIC NAa1NNAa3HAa1LAa2YAa2HAa3YAa1TLHAa1DLHAa1T",
   "LHYAa1DLHYAa1KAa1GAa1YI KAa1QAa2GAa1NGAa3HAa1ARCHAIC NGAa1HAa1XAa1GHAa3HAa1TSSAa1DZZAa1NYAa3HAa1",
   "TSHAa1DZHAa1YI TSHAa4DZHAa1REFORMED TSHAa1SHAa2SAa1ZHAa2SHAa1TSAa1DZAa1YI TSAa1SAa1ZAa2SAa2ZAa3S",
   "Aa1ARCHAIC ZZAa1ZZYAa3SYAa1WAa1AHa1HHAa1BRIa1SYIa1DZYIa1TEa2SEa1RTEe(SIGN CONSONANT MODIFIER BAR",
   "a(LETTER NASALIZATIONa(SIGN ASPIRATIONa.REFORMED VOICINGa8ASPIRATIONa(VOWEL SIGN Aa6Aa6HHa6Na7Ga",
   "5Oa6Oa5WOa5Wa5Ea6Na7Ga5OEYa5Ia6Aa7Na8Ga6Oa6Ea6Ia6Ua6NGa5Ua6Aa7Na8Ga6Ua6EIa6NGa5Ya6Ia5AEa7Ea5ERRa",
   "5ROUNDED ERRa5ERa5ROUNDED ERa5AIa5EIa5AUa5OUa5Na6Ga5UOGa5YUIa5OGa6ERa5VWa5IGa5EAa5IONGa5UIh(TONE",
   " RIGHTa.TOP RIGHTa.ABOVEa.BELOWa(LETTER TONE-2a63a64a65a66a67a68a1REFORMED TONE-1a?2a?4a?5a?6a?8",
   "!65!!TANGUT ITERATION MARKa!NUSHU ITERATION MARKa!OLD CHINESE HOOK MARKa1ITERATION MARKa!KHITAN ",
   "SMALL SCRIPT FILLERl!VIETNAMESE ALTERNATE READING MARK CAaGNHAY!6159!!TANGUT COMPONENT-001a82a83",
   "a84a85a86a87a88a89a710a81a82a83a84a85a86a87a88a89a720a81a82a83a84a85a86a87a88a89a730a81a82a83a84",
   "a85a86a87a88a89a740a81a82a83a84a85a86a87a88a89a750a81a82a83a84a85a86a87a88a89a760a81a82a83a84a85",
   "a86a87a88a89a770a81a82a83a84a85a86a87a88a89a780a81a82a83a84a85a86a87a88a89a790a81a82a83a84a85a86",
   "a87a88a89a6100a81a82a83a84a85a86a87a88a89a710a81a82a83a84a85a86a87a88a89a720a81a82a83a84a85a86a8",
   "7a88a89a730a81a82a83a84a85a86a87a88a89a740a81a82a83a84a85a86a87a88a89a750a81a82a83a84a85a86a87a8",
   "8a89a760a81a82a83a84a85a86a87a88a89a770a81a82a83a84a85a86a87a88a89a780a81a82a83a84a85a86a87a88a8",
   "9a790a81a82a83a84a85a86a87a88a89a6200a81a82a83a84a85a86a87a88a89a710a81a82a83a84a85a86a87a88a89a",
   "720a81a82a83a84a85a86a87a88a89a730a81a82a83a84a85a86a87a88a89a740a81a82a83a84a85a86a87a88a89a750",
   "a81a82a83a84a85a86a87a88a89a760a81a82a83a84a85a86a87a88a89a770a81a82a83a84a85a86a87a88a89a780a81",
   "a82a83a84a85a86a87a88a89a790a81a82a83a84a85a86a87a88a89a6300a81a82a83a84a85a86a87a88a89a710a81a8",
   "2a83a84a85a86a87a88a89a720a81a82a83a84a85a86a87a88a89a730a81a82a83a84a85a86a87a88a89a740a81a82a8",
   "3a84a85a86a87a88a89a750a81a82a83a84a85a86a87a88a89a760a81a82a83a84a85a86a87a88a89a770a81a82a83a8",
   "4a85a86a87a88a89a780a81a82a83a84a85a86a87a88a89a790a81a82a83a84a85a86a87a88a89a6400a81a82a83a84a",
   "85a86a87a88a89a710a81a82a83a84a85a86a87a88a89a720a81a82a83a84a85a86a87a88a89a730a81a82a83a84a85a",
   "86a87a88a89a740a81a82a83a84a85a86a87a88a89a750a81a82a83a84a85a86a87a88a89a760a81a82a83a84a85a86a",
   "87a88a89a770a81a82a83a84a85a86a87a88a89a780a81a82a83a84a85a86a87a88a89a790a81a82a83a84a85a86a87a",
   "88a89a6500a81a82a83a84a85a86a87a88a89a710a81a82a83a84a85a86a87a88a89a720a81a82a83a84a85a86a87a88",
   "a89a730a81a82a83a84a85a86a87a88a89a740a81a82a83a84a85a86a87a88a89a750a81a82a83a84a85a86a87a88a89",
   "a760a81a82a83a84a85a86a87a88a89a770a81a82a83a84a85a86a87a88a89a780a81a82a83a84a85a86a87a88a89a79",
   "0a81a82a83a84a85a86a87a88a89a6600a81a82a83a84a85a86a87a88a89a710a81a82a83a84a85a86a87a88a89a720a",
   "81a82a83a84a85a86a87a88a89a730a81a82a83a84a85a86a87a88a89a740a81a82a83a84a85a86a87a88a89a750a81a",
   "82a83a84a85a86a87a88a89a760a81a82a83a84a85a86a87a88a89a770a81a82a83a84a85a86a87a88a89a780a81a82a",
   "83a84a85a86a87a88a89a790a81a82a83a84a85a86a87a88a89a6700a81a82a83a84a85a86a87a88a89a710a81a82a83",
   "a84a85a86a87a88a89a720a81a82a83a84a85a86a87a88a89a730a81a82a83a84a85a86a87a88a89a740a81a82a83a84",
   "a85a86a87a88a89a750a81a82a83a84a85a86a87a88a89a760a81a82a83a84a85a86a87a88!9457!!KATAKANA LETTER",
   " MINNAN TONE-2aA3aA4aA5bA7aA8a<NASALIZED TONE-1aK2aK3aK4aK5bK7aK8b5ARCHAIC Ea!HIRAGANA LETTER AR",
   "CHAIC YE!0!#ENTAIGANA LETTER E-1a7A-1a92a93a9WOa7I-1a92a93a94a7U-1a92a93a94a95a7E-2a93a94a95a96a",
   "7O-1a92a93a7KA-1a:2a:3a:4a:5a:6a:7a:8a:9a:10a;1a:KEa8I-1a:2a:3a:4a:5a:6a:7a:8a8U-1a:2a:3a:4a:5a:",
   "6a:7a8E-1a:2a:3a:4a:5a:6a8O-1a:2a:3a:KIa7SA-1a:2a:3a:4a:5a:6a:7a:8a8I-1a:2a:3a:4a:5a:6a8U-1a:2a:",
   "3a:4a:5a:6a:7a:8a8E-1a:2a:3a:4a:5a8O-1a:2a:3a:4a:5a:6a:7a7TA-1a:2a:3a:4a8I-1a:2a:3a:4a:5a:6a:7a8",
   "U-1a:2a:3a:4a:TOa8E-1a:2a:3a:4a:5a:6a:7a:8a:9a8O-1a:2a:3a:4a:5a:6a:RAa7NA-1a:2a:3a:4a:5a:6a:7a:8",
   "a:9a8I-1a:2a:3a:4a:5a:6a:7a:TEa8U-1a:2a:3a8E-1a:2a:3a:4a:5a:6a:KOa8O-1a:2a:3a:4a:5a7HA-1a:2a:3a:",
   "4a:5a:6a:7a:8a:9a:10a;1a8I-1a:2a:3a:4a:5a:6a:7a8U-1a:2a:3a8E-1a:2a:3a:4a:5a:6a:7a8O-1a:2a:3a:4a:",
   "5a:6a:7a:8a7MA-1a:2a:3a:4a:5a:6a:7a8I-1a:2a:3a:4a:5a:6a:7a8U-1a:2a:3a:4a8E-1a:2a:MAa8O-1a:2a:3a:",
   "4a:5a:6a7YA-1a:2a:3a:4a:5a:YOa8U-1a:2a:3a:4a8O-1a:2a:3a:4a:5a:6a7RA-1a:2a:3a:4a8I-1a:2a:3a:4a:5a",
   ":6a:7a8U-1a:2a:3a:4a:5a:6a8E-1a:2a:3a:4a8O-1a:2a:3a:4a:5a:6a7WA-1a:2a:3a:4a:5a8I-1a:2a:3a:4a:5a8",
   "E-1a:2a:3a:4a8O-1a:2a:3a:4a:5a:6a:7a7N-MU-MO-1a?2a#IRAGANA LETTER ARCHAIC WUa!KATAKANA LETTER AR",
   "CHAIC YIa>Ea=WUp!HIRAGANA LETTER SMALL KO!30!;WIa<Ea<Oc!KATAKANA LETTER SMALL KOo;WIa<Ea<Oa;N!27",
   "13!!DUPLOYAN LETTER Ha5Xa5Pa5Ta5Fa5Ka5La5Ba5Da5Va5Ga5Ra5P Na5D Sa5F Na5K Ma5R Sa5THa5SLOAN DHa5D",
   "Ha5KKa5SLOAN Ja5HLa5LHa5RHa5Ma5Na5Ja5Sa5M Na5N Ma5J Ma5S Ja5M WITH DOTa5N WITH DOTa5J WITH DOTa?",
   "S INSIDE AND ABOVEa5S WITH DOTa? BELOWa5M Sa5N Sa5J Sa5S Sa5M N Sa5N M Sa5J M Sa5S J Sa5J S WITH",
   " DOTa7Na8 Sa5S Ta8 Ra7Pa8 Ra5T Sa7R Sa5Wa6Ha6 Ra5S Na7Ma5K R Sa5G R Sa5S Ka8 Ra5Aa5SLOAN OWa5OAa",
   "5Oa5AOUa5Ia5Ea5IEa5SHORT Ia5UIa5EEa5SLOAN EHa5ROMANIAN Ia5SLOAN EEa5LONG Ia5YEa5Ua5EUa5XWa5U Na5",
   "LONG Ua5ROMANIAN Ua5UHa5SLOAN Ua5OOHa6Wa6Ua5WAa6Oa6Ia6EIa6OWa5NASAL Ua;Oa;Ia;Aa5PERNIN ANa=Ma5SL",
   "OAN ENa;ANa;ONa5VOCALIC Mf,AFFIX LEFT HORIZONTAL SECANTa4MID HORIZONTAL SECANTa4RIGHT HORIZONTAL",
   " SECANTa4LOW VERTICAL SECANTa4MID VERTICAL SECANTa4HIGH VERTICAL SECANTa4ATTACHED SECANTa=LEFT-T",
   "O-RIGHT SECANTa=TANGENTa?ILa=E HOOKa=I HOOKa=TANGENT HOOKd4HIGH ACUTEa9TIGHT ACUTEa9GRAVEa9LONG ",
   "GRAVEa9DOTa9CIRCLEa9LINEa9WAVEa9VERTICALh4LOW ACUTEa8TIGHT ACUTEa8GRAVEa8LONG GRAVEa8DOTa8CIRCLE",
   "a8LINEa8WAVEa8VERTICALa8ARROWc,SIGN O WITH CROSSa,THICK LETTER SELECTORa,DOUBLE MARKa,PUNCTUATIO",
   "N CHINOOK FULL STOPa!SHORTHAND FORMAT LETTER OVERLAPa6CONTINUING OVERLAPa6DOWN STEPa6UP STEP!470",
   "1!!ZNAMENNY COMBINING MARK GORAZDO NIZKO S KRYZHEM ON LEFTa=NIZKO S KRYZHEM ON LEFTa=TSATA ON LE",
   "FTa=GORAZDO NIZKO ON LEFTa=NIZKO ON LEFTa=SREDNE ON LEFTa=MALO POVYSHE ON LEFTa=POVYSHE ON LEFTa",
   "=VYSOKO ON LEFTa=MALO POVYSHE S KHOKHLOM ON LEFTa=POVYSHE S KHOKHLOM ON LEFTa=VYSOKO S KHOKHLOM ",
   "ON LEFTa=GORAZDO NIZKO S KRYZHEM ON RIGHTa=NIZKO S KRYZHEM ON RIGHTa=TSATA ON RIGHTa=GORAZDO NIZ",
   "KO ON RIGHTa=NIZKO ON RIGHTa=SREDNE ON RIGHTa=MALO POVYSHE ON RIGHTa=POVYSHE ON RIGHTa=VYSOKO ON",
   " RIGHTa=MALO POVYSHE S KHOKHLOM ON RIGHTa=POVYSHE S KHOKHLOM ON RIGHTa=VYSOKO S KHOKHLOM ON RIGH",
   "Ta=TSATA S KRYZHEMa=MALO POVYSHE S KRYZHEMa=STRANNO MALO POVYSHEa=POVYSHE S KRYZHEMaFTRANNOa=VYS",
   "OKO S KRYZHEMa=MALO POVYSHE STRANNOa=GORAZDO VYSOKOa=ZELOa=ONa=RAVNOa=TIKHAYAa=BORZAYAa=UDARKAa=",
   "PODVERTKAa=LOMKAa=KUPNAYAa>ACHKAa=ZEVOKa=SKOBAa=RAZSEKAa=KRYZH ON LEFTc8TONAL RANGE MARK MRACHNO",
   "aISVETLOaITRESVETLOa8MARK ZADERZHKAa=DEMESTVENNY ZADERZHKAa=OTSECHKAa=PODCHASHIEaG WITH VERTICAL",
   " STROKEa=CHASHKAaD POLNAYAa=OBLACHKOa=SOROCHYA NOZHKAa=TOCHKAa=DVOETOCHIEa8ATTACHING VERTICAL OM",
   "ETa8MARK CURVED OMETa=KRYZHa8LOWER TONAL RANGE INDICATORa,PRIZNAK MODIFIER LEVEL-2aE3a?DIRECTION",
   " FLIPa?KRYZHa?ROGj,NEUME KRYUKa9 TIKHYa4PARAKLITa4DVA V CHELNUa4KLYUCHa4ZANOZHEKa4STOPITSAa< S O",
   "CHKOMa4PEREVODKAa= NEPOSTOYANNAYAa4STOPITSA WITH SOROCHYA NOZHKAa4CHELYUSTKAa4PALKAa4ZAPYATAYAa4",
   "GOLUBCHIK BORZYa>TIKHYa>MRACHNYa>SVETLYa>TRESVETLYa4VRAKHIYA PROSTAYAa=MRACHNAYAa=SVETLAYAa=TRES",
   "VETLAYAa=KLYUCHEVAYA PROSTAYAaIMRACHNAYAaISVETLAYAaITRESVETLAYAa4DOUBLE ZAPYATAYAa4REVERSED CHEL",
   "YUSTKAa4DERBITSAa4KHAMILOa4CHASHKAa4PODCHASHIEa4SKAMEYTSA MRACHNAYAa>SVETLAYAa>TRESVETLAYAa?IKHA",
   "YAa4DEMESTVENNY KLYUCHa4SKAMEYTSA KLYUCHEVAYA SVETLAYAaENEPOSTOYANNAYAaEVAYA TIKHAYAa>DVOECHELNA",
   "YA PROSTAYAaKSVETLAYAaKNEPOSTOYANNAYAaKKLYUCHEVAYAa5LOZHITIEa= S ZAPYATOYa>ZAKRYTOEa>S KRYZHEMa4",
   "KRYZHa4ROGa4FITAa4KOBYLAa4ZMEYTSAa4STATYAa: S ZAPYATOYa=KRYZHEMa=ZAPYATOY I KRYZHEMa=KRYZHEM I Z",
   "APYATOYa;ZAKRYTAYAaD S ZAPYATOYa;S ROGOMa=DVUMYA ZAPYATYMIa=ZAPYATOY I PODCHASHIEMa4POLKULIZMYa4",
   "STATYA NEPOSTOYANNAYAa6RELA PROSTAYAa;MRACHNOTIKHAYAa;KRYZHEVAYAa;POLUPOVODNAYAa=VODNAYAa;NEPOST",
   "OYANNAYAa;KLYUCHEPOVODNAYAaBNEPOSTOYANNAYAa;TIKHAYA PUTNAYAa;DVOECHELNAYAaDOKRYZHEVAYAaEPOVODNAY",
   "AaDAYA KLYUCHEVAYAaDOPOVODNAYA KLYUCHEVAYAa;GROMNAYA WITH SINGLE ZAPYATAYAa?OPOVODNAYA WITH SING",
   "LE ZAPYATAYAa?NAYAa?OPOVODNAYAaI WITH DOUBLE ZAPYATAYAa@KRYZHEVAYAaJ POVODNAYAa4MECHIKa: POVODNY",
   "a;KLYUCHEVOYaBPOVODNYaBNEPOSTOYANNYa4STRELA TRYASOGLASNAYAaAPOVODNAYAaASTRELNAYAa4OSOKAa9 SVETLA",
   "YAa:TRESVETLAYAa:KRYUKOVAYA SVETLAYAa;LYUCHEVAYA SVETLAYAaFNEPOSTOYANNAYAa4STRELA KRYUKOVAYAaE P",
   "OVODNAYAaFGROMNAYA WITH SINGLE ZAPYATAYAaJOPOVODNAYA WITH SINGLE ZAPYATAYAaJNAYAaJOPOVODNAYAaT W",
   "ITH DOUBLE ZAPYATAYAaKKRYZHEVAYAaU POVODNAYAaFTRYASKAa4KUFISMAa4OBLAKOa4DUDAa4NEMKAa4PAUK!61!!BY",
   "ZANTINE MUSICAL SYMBOL PSILIa>DASEIAa>PERISPOMENIa>OXEIA EKFONITIKONaDDIPLIa>VAREIA EKFONITIKONa",
   "EDIPLIa>KATHISTIa>SYRMATIKIa>PARAKLITIKIa>YPOKRISISaG DIPLIa>KREMASTIa>APESO EKFONITIKONa>EXO EK",
   "FONITIKONa>TELEIAa>KENTIMATAa>APOSTROFOSaH DIPLIa>SYNEVMAa>THITAa>OLIGON ARCHAIONa>GORGON ARCHAI",
   "ONa>PSILONa>CHAMILONa>VATHYa>ISON ARCHAIONa>KENTIMA ARCHAIONaETA ARCHAIONa>SAXIMATAa>PARICHONa>S",
   "TAVROS APODEXIAa>OXEIAI ARCHAIONa>VAREIAI ARCHAIONa>APODERMA ARCHAIONaATHEMAa>KLASMAa>REVMAa>PIA",
   "SMA ARCHAIONa>TINAGMAa>ANATRICHISMAa>SEISMAa?YNAGMA ARCHAIONaFMETA STAVROUa>OYRANISMA ARCHAIONa>",
   "THEMAa>LEMOIa>DYOa>TRIAa?ESSERAa>KRATIMATAa>APESO EXO NEOa>FTHORA ARCHAIONa>IMIFTHORAa>TROMIKON ",
   "ARCHAIONa>KATAVA TROMIKONa>PELASTONa?SIFISTONa>KONTEVMAa>CHOREVMA ARCHAIONa>RAPISMAa>PARAKALESMA",
   " ARCHAIONaCLITIKI ARCHAIONa>ICHADINa>NANAa>PETASMAa>KONTEVMA ALLOa>TROMIKON ALLOa>STRAGGISMATAa>",
   "GRONTHISMATAa>ISON NEOa>OLIGON NEOa?XEIA NEOa>PETASTIa>KOUFISMAa>PETASTOKOUFISMAa>KRATIMOKOUFISM",
   "Aa>PELASTON NEOa>KENTIMATA NEO ANOaE NEO ANOa>YPSILIa>APOSTROFOS NEOaGI SYNDESMOS NEOa>YPORROIa>",
   "KRATIMOYPORROONa>ELAFRONa>CHAMILIa>MIKRON ISONa>VAREIA NEOa>PIASMA NEOa?SIFISTON NEOa>OMALONa>AN",
   "TIKENOMAa>LYGISMAa>PARAKLITIKI NEOaCALESMA NEOa>ETERON PARAKALESMAa>KYLISMAa>ANTIKENOKYLISMAa>TR",
   "OMIKON NEOa>EKSTREPTONa>SYNAGMA NEOa@RMAa>CHOREVMA NEOa>EPEGERMAa>SEISMA NEOa>XIRON KLASMAa>TROM",
   "IKOPSIFISTONa>PSIFISTOLYGISMAa>TROMIKOLYGISMAaEPARAKALESMAa>PSIFISTOPARAKALESMAa>TROMIKOSYNAGMAa",
   ">PSIFISTOSYNAGMAa>GORGOSYNTHETONa>ARGOSYNTHETONa>ETERON ARGOSYNTHETONa>OYRANISMA NEOa>THEMATISMO",
   "S ESOaKXOaC APLOUNaAS KAI APOTHESa>KATAVASMAa>ENDOFONONa>YFEN KATOaCANOa>STAVROSa>KLASMA ANOa>DI",
   "PLI ARCHAIONa>KRATIMA ARCHAIONaGLLOaFNEOa>APODERMA NEOa@LIa>DIPLIa>TRIPLIa?ETRAPLIa>KORONISa>LEI",
   "MMA ENOS CHRONOUaEDYO CHRONONaETRION CHRONONaFESSARON CHRONONaEIMISEOS CHRONOUa>GORGON NEO ANOaE",
   "PARESTIGMENON ARISTERAaSDEXIAa>DIGORGONaF PARESTIGMENON ARISTERA KATOa_ANOaUDEXIAa>TRIGORGONa>AR",
   "GONa>IMIDIARGONa>DIARGONa>AGOGI POLI ARGIaDARGOTERIaGIaDMETRIAaFSIaDGORGIaHOTERIaDPOLI GORGIa>MA",
   "RTYRIA PROTOS ICHOSaGALLI PROTOS ICHOSaGDEYTEROS ICHOSaGALLI DEYTEROS ICHOSaGTRITOS ICHOSaJFONIA",
   "SaHETARTOS ICHOSaPLEGETOS ICHOSaGLEGETOS ICHOSaGPLAGIOS ICHOSa>ISAKIA TELOUS ICHIMATOSa>APOSTROF",
   "OI TELOUS ICHIMATOSa>FANEROSIS TETRAFONIASaHMONOFONIASaHDIFONIASa>MARTYRIA VARYS ICHOSaGPROTOVAR",
   "YS ICHOSaHLAGIOS TETARTOS ICHOSa>GORTHMIKON N APLOUNaKDIPLOUNa>ENARXIS KAI FTHORA VOUa>IMIFONONa",
   "BTHORONa>FTHORA ARCHAION DEYTEROU ICHOUaEDIATONIKI PAaONANAaENAOS ICHOSaEDIATONIKI DIaESKLIRON D",
   "IATONON DIaEDIATONIKI KEaOZOaONI KATOaRANOaEMALAKON CHROMA DIFONIASaTMONOFONIASa?HTORA SKLIRON C",
   "HROMA VASIS!0!?THORA SKLIRON CHROMA VASISaTSYNAFIaENENANOa>CHROA ZYGOSaDKLITONaDSPATHIa>FTHORA I",
   " YFESIS TETARTIMORIONaEENARMONIOS ANTIFONIAa>YFESIS TRITIMORIONa>DIESIS TRITIMORIONaFETARTIMORIO",
   "NaEAPLI DYO DODEKATAaEMONOGRAMMOS TESSERA DODEKATAaEDIGRAMMOS EX DODEKATAaETRIGRAMMOS OKTO DODEK",
   "ATAa>YFESIS APLI DYO DODEKATAaEMONOGRAMMOS TESSERA DODEKATAaEDIGRAMMOS EX DODEKATAaETRIGRAMMOS O",
   "KTO DODEKATAa>GENIKI DIESISaEYFESISa>DIASTOLI APLI MIKRIaMEGALIaGDIPLIaGTHESEOSa>SIMANSIS THESEO",
   "SaN DISIMOUaOTRISIMOUaPETRASIMOUaGARSEOSaM DISIMOUaNTRISIMOUaOETRASIMOUa>DIGRAMMA GGa@FTOGGOS OU",
   "a>STIGMAa>ARKTIKO PAaFVOUaFGAaFDIaFKEaFZOaFNIa>KENTIMATA NEO MESOaE NEO MESOaETA NEO KATOaE NEO ",
   "KATOa?LASMA KATOa>GORGON NEO KATOk!MUSICAL SYMBOL SINGLE BARLINEa4DOUBLE BARLINEa4FINAL BARLINEa",
   "4REVERSE FINAL BARLINEa4DASHED BARLINEa4SHORT BARLINEa4LEFT REPEAT SIGNa4RIGHT REPEAT SIGNa5EPEA",
   "T DOTSa4DAL SEGNOa6 CAPOa4SEGNOa4CODAa4REPEATED FIGURE-1aD2aD3a4FERMATAa; BELOWa4BREATH MARKa4CA",
   "ESURAa4BRACEa8KETa4ONE-LINE STAFFa4TWO-LINE STAFFa5HREE-LINE STAFFa4FOUR-LINE STAFFa5IVE-LINE ST",
   "AFFa4SIX-LINE STAFFa8STRING FRETBOARDa4FOUR-STRING FRETBOARDa4G CLEFa: OTTAVA ALTAaBBASSAa4C CLE",
   "Fa4F CLEFa: OTTAVA ALTAaBBASSAa4DRUM CLEF-1a>2c4MULTIPLE MEASURE RESTa4DOUBLE SHARPa;FLATa4FLAT ",
   "UPa9DOWNa4NATURAL UPa<DOWNa4SHARP UPa:DOWNa4QUARTER TONE SHARPaAFLATa4COMMON TIMEa5UT TIMEa4OTTA",
   "VA ALTAa;BASSAa4QUINDICESIMA ALTAaABASSAa4MULTI RESTa4WHOLE RESTa4HALF RESTa4QUARTER RESTa4EIGHT",
   "H RESTa4SIXTEENTH RESTa4THIRTY-SECOND RESTa4SIXTY-FOURTH RESTa4ONE HUNDRED TWENTY-EIGHTH RESTa4X",
   " NOTEHEADa4PLUS NOTEHEADa4CIRCLE X NOTEHEADa4SQUARE NOTEHEAD WHITEaDBLACKa4TRIANGLE NOTEHEAD UP ",
   "WHITEaIBLACKaFLEFT WHITEaKBLACKaFRIGHT WHITEaLBLACKaFDOWN WHITEaKBLACKaFUP RIGHT WHITEaOBLACKa4M",
   "OON NOTEHEAD WHITEaBBLACKa4TRIANGLE-ROUND NOTEHEAD DOWN WHITEaQBLACKa4PARENTHESIS NOTEHEADa4VOID",
   " NOTEHEADa4NOTEHEAD BLACKa5ULL NOTEHEADa4CLUSTER NOTEHEAD WHITEaEBLACKa4BREVEa4WHOLE NOTEa4HALF ",
   "NOTEa4QUARTER NOTEa4EIGHTH NOTEa4SIXTEENTH NOTEa4THIRTY-SECOND NOTEa4SIXTY-FOURTH NOTEa4ONE HUND",
   "RED TWENTY-EIGHTH NOTEa4COMBINING STEMa?PRECHGESANG STEMa>TREMOLO-1aF2aF3a4FINGERED TREMOLO-1aE2",
   "aE3a4COMBINING AUGMENTATION DOTa>FLAG-1aC2aC3aC4aC5a4BEGIN BEAMa4END BEAMa4BEGIN TIEa4END TIEa4B",
   "EGIN SLURa4END SLURa4BEGIN PHRASEa4END PHRASEa4COMBINING ACCENTa>STACCATOa>TENUTOa>STACCATISSIMO",
   "a>MARCATOaE-STACCATOa>ACCENT-STACCATOa>LOUREa4ARPEGGIATO UPa?DOWNa4COMBINING DOITa>RIPa>FLIPa>SM",
   "EARa>BENDa>DOUBLE TONGUEa>TRIPLE TONGUEa4RINFORZANDOa4SUBITOa4Za4PIANOa4MEZZOa4FORTEa4CRESCENDOa",
   "4DECRESCENDOa4GRACE NOTE SLASHa?NO SLASHa4TRa5URNa4INVERTED TURNa4TURN SLASHa9UPa4ORNAMENT STROK",
   "E-1aD2aD3aD4aD5aD6aD7aD8aD9aD10aE1a4HAUPTSTIMMEa4NEBENSTIMMEa4END OF STIMMEa4DEGREE SLASHa4COMBI",
   "NING DOWN BOWa>UP BOWa>HARMONICa>SNAP PIZZICATOa4PEDAL MARKa:UP MARKa4HALF PEDAL MARKa4GLISSANDO",
   " UPa>DOWNa4WITH FINGERNAILSa4DAMPa8 ALLa4MAXIMAa4LONGAa4BREVISa4SEMIBREVIS WHITEa?BLACKa4MINIMAa",
   ": BLACKa4SEMIMINIMA WHITEa?BLACKa4FUSA WHITEa9BLACKa4LONGA PERFECTA RESTa:IMPERFECTA RESTa4BREVI",
   "S RESTa4SEMIBREVIS RESTa4MINIMA RESTa4SEMIMINIMA RESTa4TEMPUS PERFECTUM CUM PROLATIONE PERFECTAa",
   "TIMPERFECTAaTPERFECTA DIMINUTION-1a;IMPERFECTUM CUM PROLATIONE PERFECTAaVIMPERFECTAab DIMINUTION",
   "-1an2an3a4CROIXa4GREGORIAN C CLEFa>F CLEFa4SQUARE Ba4VIRGAa4PODATUSa4CLIVISa4SCANDICUSa4CLIMACUS",
   "a4TORCULUSa4PORRECTUSa= FLEXUSa4SCANDICUS FLEXUSa4TORCULUS RESUPINUSa4PES SUBPUNCTISa4KIEVAN C C",
   "LEFa;END OF PIECEa;FINAL NOTEa;RECITATIVE MARKa;WHOLE NOTEa;HALF NOTEa;QUARTER NOTE STEM DOWNaMU",
   "Pa;EIGHTH NOTE STEM DOWNaLUPa;FLAT SIGNa4SORIa4KORONv!GREEK VOCAL NOTATION SYMBOL-1aA2aA3aA4aA5a",
   "A6aA7aA8aA9aA10aB1aB2aB3aB4aB5aB6aB7aB8aB9aA20aB1aB2aB3aB4aA50aB1aB2aB3aB4a)INSTRUMENTAL NOTATIO",
   "N SYMBOL-1aH2aH4aH5aH7aH8aH11aI2aI3aI4aI7aI8aI9aH23aI4aI5aI6aI7aI9aH30aI2aI6aI7aI8aI9aH40aI2aI3a",
   "I5aI7aI8aI9aH50aI1aI2aI3aI4a!COMBINING GREEK MUSICAL TRISEMEa>ETRASEMEa=PENTASEMEa!GREEK MUSICAL",
   " LEIMMA!123!!KAKTOVIK NUMERAL ZEROa6ONEa6TWOa7HREEa6FOURa7IVEa6SIXa7EVENa6EIGHTa6NINEa6TENa6ELEV",
   "ENa6TWELVEa7HIRTEENa6FOURTEENa7IFTEENa6SIXTEENa7EVENTEENa6EIGHTEENa6NINETEENm!MAYAN NUMERAL ZERO",
   "a3ONEa3TWOa4HREEa3FOURa4IVEa3SIXa4EVENa3EIGHTa3NINEa3TENa3ELEVENa3TWELVEa4HIRTEENa3FOURTEENa4IFT",
   "EENa3SIXTEENa4EVENTEENa3EIGHTEENa3NINETEENm#ONOGRAM FOR EARTHa!DIGRAM FOR HEAVENLY EARTHa1UMAN E",
   "ARTHa0EARTHLY HEAVENa9UMANa4Ha!TETRAGRAM FOR CENTREa3FULL CIRCLEa3MIREDa3BARRIERa3KEEPING SMALLa",
   "3CONTRARIETYa3ASCENTa3OPPOSITIONa3BRANCHING OUTa3DEFECTIVENESS OR DISTORTIONa4IVERGENCEa3YOUTHFU",
   "LNESSa3INCREASEa3PENETRATIONa3REACHa3CONTACTa3HOLDING BACKa3WAITINGa3FOLLOWINGa3ADVANCEa3RELEASE",
   "a5SISTANCEa3EASEa3JOYa3CONTENTIONa3ENDEAVOURa3DUTIESa3CHANGEa3DECISIVENESSa3BOLD RESOLUTIONa3PAC",
   "KINGa3LEGIONa3CLOSENESSa3KINSHIPa3GATHERINGa3STRENGTHa3PURITYa3FULLNESSa3RESIDENCEa3LAW OR MODEL",
   "a3RESPONSEa3GOING TO MEETa3ENCOUNTERSa3STOVEa3GREATNESSa3ENLARGEMENTa3PATTERNa3RITUALa3FLIGHTa3V",
   "ASTNESS OR WASTINGa3CONSTANCYa3MEASUREa3ETERNITYa3UNITYa3DIMINISHMENTa3CLOSED MOUTHa3GUARDEDNESS",
   "a4ATHERING INa3MASSINGa3ACCUMULATIONa3EMBELLISHMENTa3DOUBTa3WATCHa3SINKINGa3INNERa3DEPARTUREa4AR",
   "KENINGa4IMMINGa3EXHAUSTIONa3SEVERANCEa4TOPPAGEa3HARDNESSa3COMPLETIONa4LOSUREa3FAILUREa3AGGRAVATI",
   "ONa3COMPLIANCEa3ON THE VERGEa3DIFFICULTIESa3LABOURINGa3FOSTERINGj!COUNTING ROD UNIT DIGIT ONEa=T",
   "WOa>HREEa=FOURa>IVEa=SIXa>EVENa=EIGHTa=NINEa2TENS DIGIT ONEa=TWOa>HREEa=FOURa>IVEa=SIXa>EVENa=EI",
   "GHTa=NINEa!IDEOGRAPHIC TALLY MARK ONEa<TWOa=HREEa<FOURa=IVEa!TALLY MARK ONEa0FIVE!136!!MATHEMATI",
   "CAL BOLD CAPITAL Aa?Ba?Ca?Da?Ea?Fa?Ga?Ha?Ia?Ja?Ka?La?Ma?Na?Oa?Pa?Qa?Ra?Sa?Ta?Ua?Va?Wa?Xa?Ya?Za7S",
   "MALL Aa=Ba=Ca=Da=Ea=Fa=Ga=Ha=Ia=Ja=Ka=La=Ma=Na=Oa=Pa=Qa=Ra=Sa=Ta=Ua=Va=Wa=Xa=Ya=Za2ITALIC CAPITA",
   "L AaABaACaADaAEaAFaAGaAHaAIaAJaAKaALaAMaANaAOaAPaAQaARaASaATaAUaAVaAWaAXaAYaAZa9SMALL Aa?Ba?Ca?D",
   "a?Ea?Fa?Gb?Ia?Ja?Ka?La?Ma?Na?Oa?Pa?Qa?Ra?Sa?Ta?Ua?Va?Wa?Xa?Ya?Za2BOLD ITALIC CAPITAL AaFBaFCaFDa",
   "FEaFFaFGaFHaFIaFJaFKaFLaFMaFNaFOaFPaFQaFRaFSaFTaFUaFVaFWaFXaFYaFZa>SMALL AaDBaDCaDDaDEaDFaDGaDHa",
   "DIaDJaDKaDLaDMaDNaDOaDPaDQaDRaDSaDTaDUaDVaDWaDXaDYaDZa2SCRIPT CAPITAL AbACaADcAGcAJaAKcANaAOaAPa",
   "AQbASaATaAUaAVaAWaAXaAYaAZa9SMALL Aa?Ba?Ca?Db?Fb?Ha?Ia?Ja?Ka?La?Ma?Nb?Pa?Qa?Ra?Sa?Ta?Ua?Va?Wa?Xa",
   "?Ya?Za2BOLD SCRIPT CAPITAL AaFBaFCaFDaFEaFFaFGaFHaFIaFJaFKaFLaFMaFNaFOaFPaFQaFRaFSaFTaFUaFVaFWaF",
   "XaFYaFZa>SMALL AaDBaDCaDDaDEaDFaDGaDHaDIaDJaDKaDLaDMaDNaDOaDPaDQaDRaDSaDTaDUaDVaDWaDXaDYaDZa2FRA",
   "KTUR CAPITAL AaBBbBDaBEaBFaBGcBJaBKaBLaBMaBNaBOaBPaBQbBSaBTaBUaBVaBWaBXaBYb:SMALL Aa@Ba@Ca@Da@Ea",
   "@Fa@Ga@Ha@Ia@Ja@Ka@La@Ma@Na@Oa@Pa@Qa@Ra@Sa@Ta@Ua@Va@Wa@Xa@Ya@Za2DOUBLE-STRUCK CAPITAL AaHBbHDaHE",
   "aHFaHGbHIaHJaHKaHLaHMbHOdHSaHTaHUaHVaHWaHXaHYb@SMALL AaFBaFCaFDaFEaFFaFGaFHaFIaFJaFKaFLaFMaFNaFO",
   "aFPaFQaFRaFSaFTaFUaFVaFWaFXaFYaFZa2BOLD FRAKTUR CAPITAL AaGBaGCaGDaGEaGFaGGaGHaGIaGJaGKaGLaGMaGN",
   "aGOaGPaGQaGRaGSaGTaGUaGVaGWaGXaGYaGZa?SMALL AaEBaECaEDaEEaEFaEGaEHaEIaEJaEKaELaEMaENaEOaEPaEQaER",
   "aESaETaEUaEVaEWaEXaEYaEZa2SANS-SERIF CAPITAL AaEBaECaEDaEEaEFaEGaEHaEIaEJaEKaELaEMaENaEOaEPaEQaE",
   "RaESaETaEUaEVaEWaEXaEYaEZa=SMALL AaCBaCCaCDaCEaCFaCGaCHaCIaCJaCKaCLaCMaCNaCOaCPaCQaCRaCSaCTaCUaC",
   "VaCWaCXaCYaCZa=BOLD CAPITAL AaJBaJCaJDaJEaJFaJGaJHaJIaJJaJKaJLaJMaJNaJOaJPaJQaJRaJSaJTaJUaJVaJWa",
   "JXaJYaJZaBSMALL AaHBaHCaHDaHEaHFaHGaHHaHIaHJaHKaHLaHMaHNaHOaHPaHQaHRaHSaHTaHUaHVaHWaHXaHYaHZa=IT",
   "ALIC CAPITAL AaLBaLCaLDaLEaLFaLGaLHaLIaLJaLKaLLaLMaLNaLOaLPaLQaLRaLSaLTaLUaLVaLWaLXaLYaLZaDSMALL",
   " AaJBaJCaJDaJEaJFaJGaJHaJIaJJaJKaJLaJMaJNaJOaJPaJQaJRaJSaJTaJUaJVaJWaJXaJYaJZa=BOLD ITALIC CAPIT",
   "AL AaQBaQCaQDaQEaQFaQGaQHaQIaQJaQKaQLaQMaQNaQOaQPaQQaQRaQSaQTaQUaQVaQWaQXaQYaQZaISMALL AaOBaOCaO",
   "DaOEaOFaOGaOHaOIaOJaOKaOLaOMaONaOOaOPaOQaORaOSaOTaOUaOVaOWaOXaOYaOZa2MONOSPACE CAPITAL AaDBaDCaD",
   "DaDEaDFaDGaDHaDIaDJaDKaDLaDMaDNaDOaDPaDQaDRaDSaDTaDUaDVaDWaDXaDYaDZa<SMALL AaBBaBCaBDaBEaBFaBGaB",
   "HaBIaBJaBKaBLaBMaBNaBOaBPaBQaBRaBSaBTaBUaBVaBWaBXaBYaBZa2ITALIC SMALL DOTLESS IaGJc2BOLD CAPITAL",
   " ALPHAa?BETAa?GAMMAa?DELTAa?EPSILONa?ZETAa?ETAa?THETAa?IOTAa?KAPPAa?LAMDAa?MUa?NUa?XIa?OMICRONa?",
   "PIa?RHOa?THETA SYMBOLa?SIGMAa?TAUa?UPSILONa?PHIa?CHIa?PSIa?OMEGAa7NABLAa7SMALL ALPHAa=BETAa=GAMM",
   "Aa=DELTAa=EPSILONa=ZETAa=ETAa=THETAa=IOTAa=KAPPAa=LAMDAa=MUa=NUa=XIa=OMICRONa=PIa=RHOa=FINAL SIG",
   "MAa=SIGMAa=TAUa=UPSILONa=PHIa=CHIa=PSIa=OMEGAa7PARTIAL DIFFERENTIALa7EPSILON SYMBOLa7THETA SYMBO",
   "La7KAPPA SYMBOLa7PHI SYMBOLa7RHO SYMBOLa7PI SYMBOLa2ITALIC CAPITAL ALPHAaABETAaAGAMMAaADELTAaAEP",
   "SILONaAZETAaAETAaATHETAaAIOTAaAKAPPAaALAMDAaAMUaANUaAXIaAOMICRONaAPIaARHOaATHETA SYMBOLaASIGMAaA",
   "TAUaAUPSILONaAPHIaACHIaAPSIaAOMEGAa9NABLAa9SMALL ALPHAa?BETAa?GAMMAa?DELTAa?EPSILONa?ZETAa?ETAa?",
   "THETAa?IOTAa?KAPPAa?LAMDAa?MUa?NUa?XIa?OMICRONa?PIa?RHOa?FINAL SIGMAa?SIGMAa?TAUa?UPSILONa?PHIa?",
   "CHIa?PSIa?OMEGAa9PARTIAL DIFFERENTIALa9EPSILON SYMBOLa9THETA SYMBOLa9KAPPA SYMBOLa9PHI SYMBOLa9R",
   "HO SYMBOLa9PI SYMBOLa2BOLD ITALIC CAPITAL ALPHAaFBETAaFGAMMAaFDELTAaFEPSILONaFZETAaFETAaFTHETAaF",
   "IOTAaFKAPPAaFLAMDAaFMUaFNUaFXIaFOMICRONaFPIaFRHOaFTHETA SYMBOLaFSIGMAaFTAUaFUPSILONaFPHIaFCHIaFP",
   "SIaFOMEGAa>NABLAa>SMALL ALPHAaDBETAaDGAMMAaDDELTAaDEPSILONaDZETAaDETAaDTHETAaDIOTAaDKAPPAaDLAMDA",
   "aDMUaDNUaDXIaDOMICRONaDPIaDRHOaDFINAL SIGMAaDSIGMAaDTAUaDUPSILONaDPHIaDCHIaDPSIaDOMEGAa>PARTIAL ",
   "DIFFERENTIALa>EPSILON SYMBOLa>THETA SYMBOLa>KAPPA SYMBOLa>PHI SYMBOLa>RHO SYMBOLa>PI SYMBOLa2SAN",
   "S-SERIF BOLD CAPITAL ALPHAaJBETAaJGAMMAaJDELTAaJEPSILONaJZETAaJETAaJTHETAaJIOTAaJKAPPAaJLAMDAaJM",
   "UaJNUaJXIaJOMICRONaJPIaJRHOaJTHETA SYMBOLaJSIGMAaJTAUaJUPSILONaJPHIaJCHIaJPSIaJOMEGAaBNABLAaBSMA",
   "LL ALPHAaHBETAaHGAMMAaHDELTAaHEPSILONaHZETAaHETAaHTHETAaHIOTAaHKAPPAaHLAMDAaHMUaHNUaHXIaHOMICRON",
   "aHPIaHRHOaHFINAL SIGMAaHSIGMAaHTAUaHUPSILONaHPHIaHCHIaHPSIaHOMEGAaBPARTIAL DIFFERENTIALaBEPSILON",
   " SYMBOLaBTHETA SYMBOLaBKAPPA SYMBOLaBPHI SYMBOLaBRHO SYMBOLaBPI SYMBOLaBITALIC CAPITAL ALPHAaQBE",
   "TAaQGAMMAaQDELTAaQEPSILONaQZETAaQETAaQTHETAaQIOTAaQKAPPAaQLAMDAaQMUaQNUaQXIaQOMICRONaQPIaQRHOaQT",
   "HETA SYMBOLaQSIGMAaQTAUaQUPSILONaQPHIaQCHIaQPSIaQOMEGAaINABLAaISMALL ALPHAaOBETAaOGAMMAaODELTAaO",
   "EPSILONaOZETAaOETAaOTHETAaOIOTAaOKAPPAaOLAMDAaOMUaONUaOXIaOOMICRONaOPIaORHOaOFINAL SIGMAaOSIGMAa",
   "OTAUaOUPSILONaOPHIaOCHIaOPSIaOOMEGAaIPARTIAL DIFFERENTIALaIEPSILON SYMBOLaITHETA SYMBOLaIKAPPA S",
   "YMBOLaIPHI SYMBOLaIRHO SYMBOLaIPI SYMBOLa2BOLD CAPITAL DIGAMMAa7SMALL DIGAMMAc7DIGIT ZEROa=ONEa=",
   "TWOa>HREEa=FOURa>IVEa=SIXa>EVENa=EIGHTa=NINEa2DOUBLE-STRUCK DIGIT ZEROaFONEaFTWOaGHREEaFFOURaGIV",
   "EaFSIXaGEVENaFEIGHTaFNINEa2SANS-SERIF DIGIT ZEROaCONEaCTWOaDHREEaCFOURaDIVEaCSIXaDEVENaCEIGHTaCN",
   "INEa=BOLD DIGIT ZEROaHONEaHTWOaIHREEaHFOURaIIVEaHSIXaIEVENaHEIGHTaHNINEa2MONOSPACE DIGIT ZEROaBO",
   "NEaBTWOaCHREEaBFOURaCIVEaBSIXaCEVENaBEIGHTaBNINEa!SIGNWRITING HAND-FIST INDEXa6CIRCLE INDEXa7UP ",
   "INDEXa6OVAL INDEXa6HINGE INDEXa6ANGLE INDEXa6FIST INDEX BENTa6CIRCLE INDEX BENTa6FIST THUMB UNDE",
   "R INDEX BENTa;INDEX RAISED KNUCKLEaACUPPEDaAHINGEDaG LOWa6CIRCLE INDEX HINGEa6FIST INDEX MIDDLEa",
   "6CIRCLE INDEX MIDDLEa6FIST INDEX MIDDLE BENTaHRAISED KNUCKLESaHHINGEDaAUP MIDDLE HINGEDaAHINGED ",
   "MIDDLE UPaAMIDDLE CONJOINEDaQ INDEX BENTaRMIDDLE BENTaRCUPPEDaRHINGEDaIROSSEDa6CIRCLE INDEX MIDD",
   "LE CROSSEDa6FIST MIDDLE BENT OVER INDEXa;INDEX BENT OVER MIDDLEaAMIDDLE THUMBa6CIRCLE INDEX MIDD",
   "LE THUMBa6FIST INDEX MIDDLE STRAIGHT THUMB BENTaHBENT THUMB STRAIGHTaHTHUMB BENTaHHINGED SPREAD ",
   "THUMB SIDEaAUP MIDDLE HINGED THUMB SIDEaXCONJOINEDaAHINGED MIDDLE UP THUMB SIDEaAMIDDLE UP SPREA",
   "D THUMB FORWARDaHTHUMB CUPPEDaOIRCLEDaNHOOKEDaOINGEDa;THUMB BETWEEN INDEX MIDDLE STRAIGHTa;INDEX",
   " MIDDLE CONJOINED THUMB SIDEa] CONJOINEDa^BENTa;MIDDLE THUMB HOOKED INDEX UPa;INDEX THUMB HOOKED",
   " MIDDLE UPaAMIDDLE CONJOINED HINGED THUMB SIDEaIROSSED THUMB SIDEaIONJOINED THUMB FORWARDaRCUPPE",
   "D THUMB FORWARDa;MIDDLE THUMB CUPPED INDEX UPa;INDEX THUMB CUPPED MIDDLE UPa;MIDDLE THUMB CIRCLE",
   "D INDEX UPaVHINGEDa;INDEX THUMB ANGLED OUT MIDDLE UPaNIN MIDDLE UPaGCIRCLED MIDDLE UPaAMIDDLE TH",
   "UMB CONJOINED HINGEDaNANGLED OUTaSDa;MIDDLE THUMB ANGLED OUT INDEX UPaYCROSSEDaOINDEX UPa;INDEX ",
   "THUMB HOOKED MIDDLE HINGEDa7LAT FOUR FINGERSaG BENTaHHINGEDaHCONJOINEDaQ SPLITa6CLAW FOUR FINGER",
   "S CONJOINEDa6FIST FOUR FINGERS CONJOINED BENTa6HINGE FOUR FINGERS CONJOINEDa6FLAT FIVE FINGERS S",
   "PREADa;HEEL FIVE FINGERS SPREADa;FIVE FINGERS SPREAD FOUR BENTa;HEEL FIVE FINGERS SPREAD FOUR BE",
   "NTa;FIVE FINGERS SPREAD BENTa;HEEL FIVE FINGERS SPREAD BENTa;FIVE FINGERS SPREAD THUMB FORWARDa6",
   "CUP FIVE FINGERS SPREADaM OPENa6HINGE FIVE FINGERS SPREAD OPENa6OVAL FIVE FINGERS SPREADa6FLAT F",
   "IVE FINGERS SPREAD HINGEDaU THUMB SIDEaVNO THUMBa9Ta: BETWEEN PALM FACINGSa;HEELa;THUMB SIDEa;HE",
   "EL THUMB SIDEa;THUMB BENTaAFORWARDa;SPLIT INDEX THUMB SIDEaACENTREaG THUMB SIDEaR BENTaALITTLEa6",
   "CLAWa: THUMB SIDEa;NO THUMBa;THUMB FORWARDa6HOOK CURLICUEa9Ka6CUP OPENa8Pa9 OPEN THUMB SIDEa:THU",
   "MB SIDEa:OPEN NO THUMBa:NO THUMBa:OPEN THUMB FORWARDa:THUMB FORWARDa8RLICUE OPENa=Ea7IRCLEa6OVAL",
   "a: THUMB SIDEa;NO THUMBa;THUMB FORWARDa6HINGE OPENa@ THUMB FORWARDa:Ea; SMALLa<OPEN THUMB SIDEa<",
   "THUMB SIDEa<OPEN NO THUMBa<NO THUMBa<THUMB SIDE TOUCHING INDEXaBBETWEEN MIDDLE RINGa6ANGLEa6FIST",
   " INDEX MIDDLE RINGa6CIRCLE INDEX MIDDLE RINGa6HINGE INDEX MIDDLE RINGa6ANGLE INDEX MIDDLE RINGa6",
   "HINGE LITTLEa6FIST INDEX MIDDLE RING BENTaMCONJOINEDa6HINGE INDEX MIDDLE RING CONJOINEDa6FIST LI",
   "TTLE DOWNaF RIPPLE STRAIGHTaNCURVEDaGOTHERS CIRCLEDaBUPa;THUMB UNDER LITTLE UPa6CIRCLE LITTLE UP",
   "a6OVAL LITTLE UPa6ANGLE LITTLE UPa6FIST LITTLE RAISED KNUCKLEaBBENTaBTOUCHES THUMBaCHUMBa6HINGE ",
   "LITTLE THUMBa6FIST LITTLE INDEX THUMBa6HINGE LITTLE INDEX THUMBa6ANGLE LITTLE INDEX THUMB INDEX ",
   "THUMB OUTaYBa6FIST LITTLE INDEXa6CIRCLE LITTLE INDEXa6HINGE LITTLE INDEXa6ANGLE LITTLE INDEXa6FI",
   "ST INDEX MIDDLE LITTLEa6CIRCLE INDEX MIDDLE LITTLEa6HINGE INDEX MIDDLE LITTLEa<RINGa6ANGLE INDEX",
   " MIDDLE LITTLEa6FIST INDEX MIDDLE CROSS LITTLEa6CIRCLE INDEX MIDDLE CROSS LITTLEa6FIST RING DOWN",
   "a6HINGE RING DOWN INDEX THUMB HOOK MIDDLEa6ANGLE RING DOWN MIDDLE THUMB INDEX CROSSa6FIST RING U",
   "Pa@RAISED KNUCKLEa@LITTLEa6CIRCLE RING LITTLEa6OVAL RING LITTLEa6ANGLE RING LITTLEa6FIST RING MI",
   "DDLEaF CONJOINEDaGRAISED KNUCKLESa@INDEXa@THUMBa6HOOK RING THUMBa6FIST INDEX RING LITTLEa6CIRCLE",
   " INDEX RING LITTLEa7URLICUE INDEX RING LITTLE ONa6HOOK INDEX RING LITTLE OUTaMINaMUNDERa6CUP IND",
   "EX RING LITTLEa6HINGE INDEX RING LITTLEa6ANGLE INDEX RING LITTLE OUTaLEa6FIST MIDDLE DOWNa6HINGE",
   " MIDDLEa6FIST MIDDLE UPa6CIRCLE MIDDLE UPa6FIST MIDDLE RAISED KNUCKLEaBUP THUMB SIDEa6HOOK MIDDL",
   "E THUMBa6FIST MIDDLE THUMB LITTLEaBLITTLEaBRING LITTLEa6CIRCLE MIDDLE RING LITTLEa7URLICUE MIDDL",
   "E RING LITTLE ONa8P MIDDLE RING LITTLEa6HINGE MIDDLE RING LITTLEa6ANGLE MIDDLE RING LITTLE OUTaO",
   "INaMEa6CIRCLE MIDDLE RING LITTLE BENTa7LAW MIDDLE RING LITTLE CONJOINEDaW SIDEa6HOOK MIDDLE RING",
   " LITTLE CONJOINED OUTaXINaVDa7INGE INDEX HINGEDa6FIST INDEX THUMB SIDEa6HINGE INDEX THUMB SIDEa6",
   "FIST INDEX THUMB SIDE THUMB DIAGONALaRCONJOINEDaRBENTaLINDEX BENTaLBOTH BENTaLINDEX HINGEaGFORWA",
   "RD INDEX STRAIGHTaUBENTaGHOOKaGCURLICUEaJVE THUMB INSIDEa6CLAW INDEX THUMB CURVE THUMB INSIDEa6F",
   "IST INDEX THUMB CURVE THUMB UNDERaHIRCLEa6CUP INDEX THUMBaE OPENa6HINGE INDEX THUMB OPENaHLARGEa",
   "FBaG SMALLa6ANGLE INDEX THUMB OUTaHINaFBa6FIST THUMBa@ HEELaASIDE DIAGONALaFCONJOINEDaFBENTaAFOR",
   "WARDaABETWEEN INDEX MIDDLEaIMIDDLE RINGaIRING LITTLEaAUNDER TWO FINGERSaAOVER TWO FINGERSaAUNDER",
   " THREE FINGERSaGFOUR FINGERSaAOVER FOUR RAISED KNUCKLESa9Ta: HEELa1TOUCH SINGLEa7MULTIPLEa7BETWE",
   "ENa1GRASP SINGLEa7MULTIPLEa7BETWEENa1STRIKE SINGLEa8MULTIPLEa8BETWEENa1BRUSH SINGLEa7MULTIPLEa7B",
   "ETWEENa1RUB SINGLEa5MULTIPLEa5BETWEENa1SURFACE SYMBOLSa9BETWEENa2QUEEZE LARGE SINGLEa9SMALL SING",
   "LEa9LARGE MULTIPLEa9SMALL MULTIPLEa:EQUENTIALa1FLICK LARGE SINGLEa7SMALL SINGLEa7LARGE MULTIPLEa",
   "7SMALL MULTIPLEa8EQUENTIALa1SQUEEZE FLICK ALTERNATINGa1MOVEMENT-HINGE UP DOWN LARGEaHSMALLaCSEQU",
   "ENTIALa@DOWN SEQUENTIALa@UP DOWN ALTERNATING LARGEaTSMALLa@SIDE TO SIDE SCISSORSa:WALLPLANE FING",
   "ER CONTACTa:FLOORPLANE FINGER CONTACTa:WALLPLANE SINGLE STRAIGHT SMALLaTMEDIUMaTLARGEaYSTaKWRIST",
   " FLEXaDDOUBLE STRAIGHTaKWRIST FLEXaKALTERNATINGaV WRIST FLEXaDCROSSaDTRIPLE STRAIGHT MOVEMENTaKW",
   "RIST FLEXaKALTERNATINGaV WRIST FLEXaDBEND SMALLaIMEDIUMaILARGEaDCORNER SMALLaKMEDIUMaKLARGEaKROT",
   "ATIONaEHECK SMALLaJMEDIUMaJLARGEaDBOX SMALLaHMEDIUMaHLARGEaDZIGZAG SMALLaKMEDIUMaKLARGEaDPEAKS S",
   "MALLaJMEDIUMaJLARGEa1TRAVEL-WALLPLANE ROTATION-WALLPLANE SINGLEaUDOUBLEaUALTERNATINGaKFLOORPLANE",
   " SINGLEaVDOUBLEaVALTERNATINGaBSHAKINGaBARM SPIRAL SINGLEaMDOUBLEaMTRIPLEa1MOVEMENT-DIAGONAL AWAY",
   " SMALLaHMEDIUMaHLARGEaMSTaCTOWARDS SMALLaKMEDIUMaKLARGEaPSTaCBETWEEN AWAY SMALLaPMEDIUMaPLARGEaU",
   "STaKTOWARDS SMALLaSMEDIUMaSLARGEaXSTa:FLOORPLANE SINGLE STRAIGHT SMALLaUMEDIUMaULARGEaZSTaLWRIST",
   " FLEXaEDOUBLE STRAIGHTaLWRIST FLEXaLALTERNATINGaW WRIST FLEXaECROSSaETRIPLE STRAIGHT MOVEMENTaLW",
   "RIST FLEXaLALTERNATING MOVEMENTaXWRIST FLEXaEBENDaECORNER SMALLaLMEDIUMaLLARGEaFHECKaEBOX SMALLa",
   "IMEDIUMaILARGEaEZIGZAG SMALLaLMEDIUMaLLARGEaEPEAKS SMALLaKMEDIUMaKLARGEa1TRAVEL-FLOORPLANE ROTAT",
   "ION-FLOORPLANE SINGLEaWDOUBLEaWALTERNATINGaLWALLPLANE SINGLEaVDOUBLEaVALTERNATINGaCSHAKINGa1MOVE",
   "MENT-WALLPLANE CURVE QUARTER SMALLaRMEDIUMaRLARGEaWSTaJHALF-CIRCLE SMALLaVMEDIUMaVLARGEa[STaJTHR",
   "EE-QUARTER CIRCLE SMALLaaMEDIUMaDHUMP SMALLaIMEDIUMaILARGEaDLOOP SMALLaIMEDIUMaILARGEaISMALL DOU",
   "BLEaDWAVE CURVE DOUBLE SMALLaVMEDIUMaVLARGEaOTRIPLE SMALLaVMEDIUMaVLARGEaDCURVE THEN STRAIGHTaID",
   " CROSS SMALLaQMEDIUMa1ROTATION-WALLPLANE SINGLEaDDOUBLEaDALTERNATEa1MOVEMENT-WALLPLANE SHAKINGaD",
   "CURVE HITTING FRONT WALLaDHUMP HITTING FRONT WALLaDLOOP HITTING FRONT WALLaDWAVE HITTING FRONT W",
   "ALLa1ROTATION-WALLPLANE SINGLE HITTING FRONT WALLaDDOUBLE HITTING FRONT WALLaDALTERNATING HITTIN",
   "G FRONT WALLa1MOVEMENT-WALLPLANE CURVE HITTING CHESTaDHUMP HITTING CHESTaDLOOP HITTING CHESTaDWA",
   "VE HITTING CHESTa1ROTATION-WALLPLANE SINGLE HITTING CHESTaDDOUBLE HITTING CHESTaDALTERNATING HIT",
   "TING CHESTa1MOVEMENT-WALLPLANE WAVE DIAGONAL PATH SMALLaWMEDIUMaWLARGEa:FLOORPLANE CURVE HITTING",
   " CEILING SMALLa[LARGEaEHUMP HITTING CEILING SMALL DOUBLEaZLARGE DOUBLEaZSMALL TRIPLEaZLARGE TRIP",
   "LEaELOOP HITTING CEILING SMALL SINGLEaZLARGE SINGLEaZSMALL DOUBLEaZLARGE DOUBLEaEWAVE HITTING CE",
   "ILING SMALLaZLARGEa1ROTATION-FLOORPLANE SINGLE HITTING CEILINGaEDOUBLE HITTING CEILINGaEALTERNAT",
   "ING HITTING CEILINGa1MOVEMENT-FLOORPLANE CURVE HITTING FLOOR SMALLaYLARGEaEHUMP HITTING FLOOR SM",
   "ALL DOUBLEaXLARGE DOUBLEaXTRIPLE SMALL TRIPLEaaLARGE TRIPLEaELOOP HITTING FLOOR SMALL SINGLEaXLA",
   "RGE SINGLEaXSMALL DOUBLEaXLARGE DOUBLEaEWAVE HITTING FLOOR SMALLaXLARGEa1ROTATION-FLOORPLANE SIN",
   "GLE HITTING FLOORaEDOUBLE HITTING FLOORaEALTERNATING HITTING FLOORa1MOVEMENT-FLOORPLANE CURVE SM",
   "ALLaKMEDIUMaKLARGEaPSTaKCOMBINEDaEHUMP SMALLaELOOP SMALLaEWAVE SNAKEaKMALLaJLARGEa1ROTATION-FLOO",
   "RPLANE SINGLEaEDOUBLEaEALTERNATINGa1MOVEMENT-FLOORPLANE SHAKING PARALLELa:WALLPLANE ARM CIRCLE S",
   "MALL SINGLEaOMEDIUM SINGLEaOSMALL DOUBLEaOMEDIUM DOUBLEa:FLOORPLANE ARM CIRCLE HITTING WALL SMAL",
   "L SINGLEa^MEDIUM SINGLEa^LARGE SINGLEa^SMALL DOUBLEa^MEDIUM DOUBLEa^LARGE DOUBLEa:WALLPLANE WRIS",
   "T CIRCLE FRONT SINGLEaWDOUBLEa:FLOORPLANE WRIST CIRCLE HITTING WALL SINGLEaaDOUBLEa:WALLPLANE FI",
   "NGER CIRCLES SINGLEaSDOUBLEa:FLOORPLANE FINGER CIRCLES HITTING WALL SINGLEacDOUBLEa1DYNAMIC ARRO",
   "WHEAD SMALLaCLARGEa9FASTa9SLOWa9TENSEa9RELAXEDa9SIMULTANEOUSaE ALTERNATINGa9EVERY OTHER TIMEa9GR",
   "ADUALa1HEADa5 RIMa6MOVEMENT-WALLPLANE STRAIGHTaITILTa?FLOORPLANE STRAIGHTa?WALLPLANE CURVEa?FLOO",
   "RPLANE CURVEa> CIRCLEa1FACE DIRECTION POSITION NOSE FORWARD TILTINGaNUP OR DOWNaX TILTINGa1EYEBR",
   "OWS STRAIGHT UPaCNEUTRALaCDOWNa1DREAMY EYEBROWS NEUTRAL DOWNaADOWN NEUTRALaAUP NEUTRALaANEUTRAL ",
   "UPa1FOREHEAD NEUTRALa:CONTACTa:WRINKLEDa1EYES OPENa6SQUEEZEDa6CLOSEDa4 BLINK SINGLEa;MULTIPLEa4S",
   " HALF OPENa6WIDE OPENa6HALF CLOSEDa6WIDENING MOVEMENTa4 WINKa4LASHES UPa;DOWNa;FLUTTERINGa4GAZE-",
   "WALLPLANE STRAIGHTaK DOUBLEaLALTERNATINGa9FLOORPLANE STRAIGHTaL DOUBLEaMALTERNATINGa9WALLPLANE C",
   "URVEDa9FLOORPLANE CURVEDa9WALLPLANE CIRCLINGa1CHEEKS PUFFEDa8NEUTRALa8SUCKEDa1TENSE CHEEKS HIGHa",
   ">MIDDLEa>LOWa1EARSa1NOSE NEUTRALa6CONTACTa6WRINKLESa7IGGLESa1AIR BLOWING OUTa5SUCKING INa5BLOW S",
   "MALL ROTATIONSa5SUCK SMALL ROTATIONSa1BREATH INHALEa8EXHALEa1MOUTH CLOSED NEUTRALa>FORWARDa>CONT",
   "ACTa7SMILEa< WRINKLEDa=OPENa7FROWNa< WRINKLEDa=OPENa7OPEN CIRCLEa<FORWARDa<WRINKLEDa<OVALa@ WRIN",
   "KLEDaAYAWNa<RECTANGLEaE WRINKLEDaFYAWNa7KISSa; FORWARDa<WRINKLEDa7TENSEa< FORWARDa=SUCKEDa1LIPS ",
   "PRESSED TOGETHERa4 LOWER OVER UPPERa5UPPER OVER LOWERa1MOUTH CORNERSa7WRINKLES SINGLEa@DOUBLEa1T",
   "ONGUE STICKING OUT FARa8LICKING LIPSa8TIP BETWEEN LIPSa<TOUCHING INSIDE MOUTHa8INSIDE MOUTH RELA",
   "XEDa8MOVES AGAINST CHEEKa8CENTRE STICKING OUTa?INSIDE MOUTHa2EETHa6 MOVEMENTa7ON TONGUEa@ MOVEME",
   "NTa:LIPSa> MOVEMENTa7BITE LIPSa1MOVEMENT-WALLPLANE JAWa:FLOORPLANE JAWa1NECKa1HAIRa1EXCITEMENTa1",
   "SHOULDER HIP SPINEa>POSITIONSa1WALLPLANE SHOULDER HIP MOVEa1FLOORPLANE SHOULDER HIP MOVEa1SHOULD",
   "ER TILTING FROM WAISTa1TORSO-WALLPLANE STRAIGHT STRETCHaACURVED BENDa7FLOORPLANE TWISTINGa1UPPER",
   " BODY TILTING FROM HIP JOINTSa1LIMB COMBINATIONa6LENGTH-1a=2a=3a=4a=5a=6a=7a1FINGERa1LOCATION-WA",
   "LLPLANE SPACEa:FLOORPLANE SPACEa9 HEIGHTa:WIDTHa:DEPTHa:HEAD NECKa:TORSOa:LIMBS DIGITSa1COMMAa1F",
   "ULL STOPa1SEMICOLONa1COLONa1PARENTHESISp1FILL MODIFIER-2a?3a?4a?5a?6b1ROTATION MODIFIER-2aC3aC4a",
   "C5aC6aC7aC8aC9aC10aD1aD2aD3aD4aD5aD6!1105!!LATIN SMALL LETTER FENG DIGRAPH WITH TRILLa8REVERSED ",
   "SCRIPT Ga)LETTER SMALL CAPITAL TURNED Ga)SMALL LETTER REVERSED Ka)LETTER SMALL CAPITAL L WITH BE",
   "LTa)SMALL LETTER LEZH WITH RETROFLEX HOOKa8TURNED Y WITH BELTa8REVERSED ENGa8TURNED R WITH LONG ",
   "LEG AND RETROFLEX HOOKa9 WITH HOOK AND RETROFLEX HOOKa)LETTER RETROFLEX CLICK WITH RETROFLEX HOO",
   "Ka)SMALL LETTER ESH WITH DOUBLE BARaK AND CURLa8TURNED T WITH CURLa)LETTER INVERTED GLOTTAL STOP",
   " WITH CURLa2STRETCHED C WITH CURLa3MALL CAPITAL TURNED Ka)SMALL LETTER L WITH FISHHOOKa8DEZH DIG",
   "RAPH WITH PALATAL HOOKa8L WITH BELT AND PALATAL HOOKa8ENG WITH PALATAL HOOKa8TURNED R WITH PALAT",
   "AL HOOKa8R WITH FISHHOOK AND PALATAL HOOKa8TESH DIGRAPH WITH PALATAL HOOKa8EZH WITH PALATAL HOOK",
   "a8DEZH DIGRAPH WITH RETROFLEX HOOKa8I WITH STROKE AND RETROFLEX HOOKa8O WITH RETROFLEX HOOKa8TES",
   "H DIGRAPH WITH RETROFLEX HOOKa8C WITH RETROFLEX HOOKa8S WITH CURLg8D WITH MID-HEIGHT LEFT HOOKa8",
   "L WITH MID-HEIGHT LEFT HOOKa8N WITH MID-HEIGHT LEFT HOOKa8R WITH MID-HEIGHT LEFT HOOKa8S WITH MI",
   "D-HEIGHT LEFT HOOKa8T WITH MID-HEIGHT LEFT HOOK!214!!COMBINING GLAGOLITIC LETTER AZUaABUKYaAVEDE",
   "aAGLAGOLIaADOBROaAYESTUaAZHIVETEbBEMLJAaAIZHEaBNITIAL IZHEaAIaADJERVIaAKAKOaALJUDIJEaAMYSLITEaAN",
   "ASHIaAONUaAPOKOJIaARITSIaASLOVOaATVRIDOaAUKUaAFRITUaAHERUcASHTAaATSIaACHRIVIaASHAaAYERUaDIaBATIb",
   "BUaASMALL YUSbAYOaAIOTATED SMALL YUSaABIG YUSaAIOTATED BIG YUSaAFITAf!MODIFIER LETTER CYRILLIC S",
   "MALL AaDBEaDVEaDGHEaDDEaDIEaDZHEaEEaDIaDKAaDELaEMaDOaDPEaDERaESaDTEaDUaDEFaDHAaDTSEaDCHEaDSHAaDY",
   "ERUaDEaDYUaDDZZEaDSCHWAaDBYELORUSSIAN-UKRAINIAN IaDJEaDBARRED OaDSTRAIGHT UaDPALOCHKAa!CYRILLIC ",
   "SUBSCRIPT SMALL LETTER AaEBEaEVEaEGHEaEDEaEIEaEZHEaFEaEIaEKAaEELaEOaEPEaEESaEUaEEFaEHAaETSEaECHE",
   "aESHAaEHARD SIGNaEYERUaEGHE WITH UPTURNaEBYELORUSSIAN-UKRAINIAN IaEDZEaGHEa!MODIFIER LETTER CYRI",
   "LLIC SMALL ES WITH DESCENDERaDYERU WITH BACK YERaDSTRAIGHT U WITH STROKE!34!!COMBINING CYRILLIC ",
   "SMALL LETTER BYELORUSSIAN-UKRAINIAN I!113!!NYIAKENG PUACHUE HMONG LETTER MAaCTSAaCNTAaCTAaCHAaCN",
   "AaCXAaCNKAaCCAaCLAaCSAaCZAaCNCAaDTSAaCKAaCDAaCNYAaDRAaCVAaCNTXAaCTXAaCFAaCRAaCQAaCYAaCNQAaCPAaCX",
   "YAaCNPAaCDLAaCNPLAaCHAHaCMLAaCPLAaCGAaCRRAaCAaDAaCIaCUaCOaDOaCEaDEaCWd<TONE-BaAMaAJaAVaASaAGaADa",
   "<SIGN FOR PERSONaETHINGaELOCATIONaEANIMALaEINVERTEBRATEaAXW XWa=YLLABLE LENGTHENERc<DIGIT ZEROaB",
   "ONEaBTWOaCHREEaBFOURaCIVEaBSIXaCEVENaBEIGHTaBNINEe<LOGOGRAM NYAJa<CIRCLED CA!321!!TOTO LETTER PA",
   "a1BAa1TAa1DAa1KAa1GAa1MAa1NAa2GAa1SAa1CHAa1YAa1WAa1JAa1HAa1RAa1LAa1Ia1BREATHY Ia1IUa1BREATHY IUa",
   "1Ua1Ea1BREATHY Ea1EOa1BREATHY EOa1Oa1AEa1BREATHY AEa1Aa(SIGN RISING TONEr!WANCHO LETTER AAa3Aa3B",
   "Aa3CAa3DAa3GAa3YAa3PHAa3LAa3NAa3PAa3TAa4HAa3FAa3SAa4HAa3JAa3ZAa3WAa3VAa3KAa3Oa3AUa3RAa3MAa3KHAa3",
   "HAa3Ea3Ia3NGAa3Ua3LLHAa3TSAa4RAa3ONGa3AANGa4NGa3INGa3ONa3ENa3AANa3NYAa3UENa3YIHa*TONE TUPa4NIa1K",
   "OIa4NIa*DIGIT ZEROa2ONEa2TWOa3HREEa2FOURa3IVEa2SIXa3EVENa2EIGHTa2NINEf*NGUN SIGN!465!!NAG MUNDAR",
   "I LETTER Oa9Pa9La9Ya9NGa8Aa9Ja9Ba9NYa9Ha8Ia9Sa9DDa9Ta9Ha8Ua9Ca9Da9Ka9Ra8Ea9NNa9Ga9Ma9Na9TTa9LLa1",
   "SIGN OJODa6MUHORa6TOYORa6IKIRa6SUTUHa1DIGIT ZEROa7ONEa7TWOa8HREEa7FOURa8IVEa7SIXa8EVENa7EIGHTa7N",
   "INE!743!!ETHIOPIC SYLLABLE HHYAa:Ua:Ia:AAa:EEa:Ea:Ob7GURAGE HHWAa7HHWIa:EEa:Eb7GURAGE MWIa@EEb>Q",
   "WIa@EEa@Ea>BWIa@EEa>KWIa@EEa@Ea>GWIa@EEa@Ea>FWIa@EEa>PWIa@EEb!MENDE KIKAKUI SYLLABLE M001 KIa?2 ",
   "KAa?3 KUa>65 KEEa>95 KEa>76 KOOa>48 KOa=179 KUAa=004 WIa?5 WAa?6 WUa=126 WEEa>18 WEa?4 WOOa=045 ",
   "WOa=194 WUIa>43 WEIa=061 WVIa>49 WVAa=139 WVEa=007 MINa?8 MANa?9 MUNa>59 MENa>94 MONa=154 MUANa>",
   "89 MUENa=010 BIa?1 BAa?2 BUa=150 BEEa=097 BEa=103 BOOa>38 BOa=013 Ia?4 Aa?5 Ua=163 EEa>00 Ea>65 ",
   "OOa>47 Oa>37 EIa?1 INa?5 INa>95 ANa>78 ENa=019 SIa>20 SAa?1 SUa=162 SEEa>16 SEa>36 SOOa=079 SOa=",
   "196 SIAa=025 LIa?6 LAa?7 LUa>84 LEEa>73 LEa>54 LOOa=153 LOa>10 LONG LEa=016 DIa?7 DAa?8 DUa>89 D",
   "EEa=180 DOOa?1 DOa=022 TIa?3 TAa?4 TUa>91 TEEa>55 TEa=104 TOOa=069 TOa>28 JIa?9 JAa>30 JUa=157 J",
   "EEa>13 JEa>60 JOOa=063 JOa=175 LONG JOa=031 YIa?2 YAa?3 YUa=109 YEEa=080 YEa=141 YOOa>21 YOa=034",
   " FIa?5 FAa?6 FUa>78 FEEa?5 FEa=133 FOOa=088 FOa=197 FUAa>01 FANa=037 NINa?8 NANa?9 NUNa=117 NENa",
   ">69 NONa>76 HIa=041 HAa=186 HUa=040 HEEa>96 HEa>42 HOOa=140 HOa=083 HEEIa=128 HOOUa=053 HINa=130",
   " HANa=087 HUNa>52 HENa=193 HONa=046 HUANa>90 NGGIa>43 NGGAa>82 NGGUa=115 NGGEEa>46 NGGEa>56 NGGO",
   "Oa>20 NGGOa>59 NGGAAa>27 NGGUAa=086 LONG NGGEa=106 LONG NGGOOa>83 LONG NGGOa>55 GIa>11 GAa>68 GU",
   "a>90 GEEa>66 GUEIa?7 GUANa>84 NGENa=057 NGONa=177 NGUANa=068 PIa>99 PAa>50 PUa>81 PEEa>51 PEa=10",
   "2 POOa=066 POa=145 MBIa=062 MBAa=122 MBUa=047 MBEEa=188 MBEEa=072 MBEa=172 MBOOa?4 MBOa>87 MBUUa",
   ">61 LONG MBEa>05 LONG MBOOa>42 LONG MBOa>32 KPIa=092 KPAa>74 KPUa>44 KPEEa=108 KPEa>12 KPOOa>58 ",
   "KPOa>24 GBIa=056 GBAa=148 GBUa=093 GBEEa=107 GBEa=071 GBOOa?0 GBOa=171 RAa>23 NDIa?9 NDAa?5 NDUa",
   ">91 NDEEa>19 NDEa=067 NDOOa?4 NDOa=152 NJAa>92 NJUa>49 NJEEa>34 NJOOa>82 VIa?5 VAa>51 VUa>73 VEE",
   "a=085 VEa=144 VOOa=077 VOa=164 NYINa=058 NYANa=170 NYUNa=098 NYENa>60 NYONc3DIGIT ONEa9TWOa:HREE",
   "a9FOURa:IVEa9SIXa:EVENa9EIGHTa9NINEa3COMBINING NUMBER TEENSaFNSaDHUNDREDSaDTHOUSANDSaEEN THOUSAN",
   "DSaDHUNDRED THOUSANDSaDMILLIONS!42!!ADLAM CAPITAL LETTER ALIFa:DAALIa:LAAMa:MIIMa:BAa:SINNYIIYHE",
   "a:PEa:BHEa:RAa:Ea:FAa:Ia:Oa:DHAa:YHEa:WAWa:NUNa:KAFa:YAa:Ua:JIIMa:CHIa:HAa:QAAFa:GAa:NYAa:TUa:NH",
   "Aa:VAa:KHAa:GBEa:ZALa:KPOa:SHAa)SMALL LETTER ALIFa8DAALIa8LAAMa8MIIMa8BAa8SINNYIIYHEa8PEa8BHEa8R",
   "Aa8Ea8FAa8Ia8Oa8DHAa8YHEa8WAWa8NUNa8KAFa8YAa8Ua8JIIMa8CHIa8HAa8QAAFa8GAa8NYAa8TUa8NHAa8VAa8KHAa8",
   "GBEa8ZALa8KPOa8SHAa)ALIF LENGTHENERa)VOWEL LENGTHENERa)GEMINATION MARKa)HAMZAa)CONSONANT MODIFIE",
   "Ra)GEMINATE CONSONANT MODIFIERa)NUKTAa*ASALIZATION MARKe)DIGIT ZEROa1ONEa1TWOa2HREEa1FOURa2IVEa1",
   "SIXa2EVENa1EIGHTa1NINEe)INITIAL EXCLAMATION MARKa3QUESTION MARK!786!!INDIC SIYAQ NUMBER ONEa8TWO",
   "a9HREEa8FOURa9IVEa8SIXa9EVENa8EIGHTa8NINEa8TENa9WENTYa9HIRTYa8FORTYa9IFTYa8SIXTYa9EVENTYa8EIGHTY",
   "a8NINETYa8ONE HUNDREDa8TWO HUNDREDa9HREE HUNDREDa8FOUR HUNDREDa9IVE HUNDREDa8SIX HUNDREDa9EVEN H",
   "UNDREDa8EIGHT HUNDREDa8NINE HUNDREDa8ONE THOUSANDa8TWO THOUSANDa9HREE THOUSANDa8FOUR THOUSANDa9I",
   "VE THOUSANDa8SIX THOUSANDa9EVEN THOUSANDa8EIGHT THOUSANDa8NINE THOUSANDa8TEN THOUSANDa9WENTY THO",
   "USANDa9HIRTY THOUSANDa8FORTY THOUSANDa9IFTY THOUSANDa8SIXTY THOUSANDa9EVENTY THOUSANDa8EIGHTY TH",
   "OUSANDa8NINETY THOUSANDa8LAKHa<ANa1LAKH MARKa1NUMBER KARORa=ANa8PREFIXED ONEaATWOaBHREEaAFOURaBI",
   "VEaASIXaBEVENaAEIGHTaANINEa1PLACEHOLDERa1FRACTION ONE QUARTERa>HALFa:THREE QUARTERSa1RUPEE MARKa",
   "1NUMBER ALTERNATE ONEaBTWOaCEN THOUSANDa1ALTERNATE LAKH MARK!77!!OTTOMAN SIYAQ NUMBER ONEa:TWOa;",
   "HREEa:FOURa;IVEa:SIXa;EVENa:EIGHTa:NINEa:TENa;WENTYa;HIRTYa:FORTYa;IFTYa:SIXTYa;EVENTYa:EIGHTYa:",
   "NINETYa:ONE HUNDREDa:TWO HUNDREDa;HREE HUNDREDa:FOUR HUNDREDa;IVE HUNDREDa:SIX HUNDREDa;EVEN HUN",
   "DREDa:EIGHT HUNDREDa:NINE HUNDREDa:ONE THOUSANDa:TWO THOUSANDa;HREE THOUSANDa:FOUR THOUSANDa;IVE",
   " THOUSANDa:SIX THOUSANDa;EVEN THOUSANDa:EIGHT THOUSANDa:NINE THOUSANDa:TEN THOUSANDa;WENTY THOUS",
   "ANDa;HIRTY THOUSANDa:FORTY THOUSANDa;IFTY THOUSANDa:SIXTY THOUSANDa;EVENTY THOUSANDa:EIGHTY THOU",
   "SANDa:NINETY THOUSANDa3MARRATANa3ALTERNATE NUMBER TWOaEHREEaDFOURaEIVEaDSIXaEEVENaDEIGHTaDNINEaD",
   "TENaDFOUR HUNDREDaDSIX HUNDREDaDTWO THOUSANDaEEN THOUSANDa3FRACTION ONE HALFa@SIXTH!195!!ARABIC ",
   "MATHEMATICAL ALEFa9BEHa9JEEMa9DALb9WAWa9ZAINa9HAHa9TAHa9YEHa9KAFa9LAMa9MEEMa9NOONa9SEENa9AINa9FE",
   "Ha9SADa9QAFa9REHa9SHEENa9TEHa:HEHa9KHAHa9THALa9DADa9ZAHa9GHAINa9DOTLESS BEHaANOONaAFEHaAQAFb9INI",
   "TIAL BEHaAJEEMbAHEHcBAHbAYEHaAKAFaALAMaAMEEMaANOONaASEENaAAINaAFEHaASADaAQAFbASHEENaATEHaBHEHaAK",
   "HAHbADADbAGHAINg9TAILED JEEMe@HAHb@YEHb@LAMb@NOONa@SEENa@AINb@SADa@QAFb@SHEENc@KHAHb@DADb@GHAINb",
   "@DOTLESS NOONbHQAFb9STRETCHED BEHaCJEEMbCHEHcDAHaCTAHaCYEHaCKAFbCMEEMaCNOONaCSEENaCAINaCFEHaCSAD",
   "aCQAFbCSHEENaCTEHaDHEHaCKHAHbCDADaCZAHaCGHAINaCDOTLESS BEHbKFEHb9LOOPED ALEFa@BEHa@JEEMa@DALa@HE",
   "Ha@WAWa@ZAINa@HAHa@TAHa@YEHb@LAMa@MEEMa@NOONa@SEENa@AINa@FEHa@SADa@QAFa@REHa@SHEENa@TEHaAHEHa@KH",
   "AHa@THALa@DADa@ZAHa@GHAINf9DOUBLE-STRUCK BEHaGJEEMaGDALbGWAWaGZAINaGHAHaGTAHaGYEHbGLAMaGMEEMaGNO",
   "ONaGSEENaGAINaGFEHaGSADaGQAFaGREHaGSHEENaGTEHaHHEHaGKHAHaGTHALaGDADaGZAHaGGHAIN!53!9OPERATOR MEE",
   "M WITH HAH WITH TATWEELaBHAH WITH DAL!271!!MAHJONG TILE EAST WINDa2SOUTH WINDa2WEST WINDa2NORTH ",
   "WINDa2RED DRAGONa2GREEN DRAGONa2WHITE DRAGONa2ONE OF CHARACTERSa2TWO OF CHARACTERSa3HREE OF CHAR",
   "ACTERSa2FOUR OF CHARACTERSa3IVE OF CHARACTERSa2SIX OF CHARACTERSa3EVEN OF CHARACTERSa2EIGHT OF C",
   "HARACTERSa2NINE OF CHARACTERSa2ONE OF BAMBOOSa2TWO OF BAMBOOSa3HREE OF BAMBOOSa2FOUR OF BAMBOOSa",
   "3IVE OF BAMBOOSa2SIX OF BAMBOOSa3EVEN OF BAMBOOSa2EIGHT OF BAMBOOSa2NINE OF BAMBOOSa2ONE OF CIRC",
   "LESa2TWO OF CIRCLESa3HREE OF CIRCLESa2FOUR OF CIRCLESa3IVE OF CIRCLESa2SIX OF CIRCLESa3EVEN OF C",
   "IRCLESa2EIGHT OF CIRCLESa2NINE OF CIRCLESa2PLUMa2ORCHIDa2BAMBOOa2CHRYSANTHEMUMa2SPRINGa3UMMERa2A",
   "UTUMNa2WINTERa2JOKERa2BACKe!DOMINO TILE HORIZONTAL BACKa;-00-00a@1a@2a@3a@4a@5a@6a=1-00a@1a@2a@3",
   "a@4a@5a@6a=2-00a@1a@2a@3a@4a@5a@6a=3-00a@1a@2a@3a@4a@5a@6a=4-00a@1a@2a@3a@4a@5a@6a=5-00a@1a@2a@3",
   "a@4a@5a@6a=6-00a@1a@2a@3a@4a@5a@6a1VERTICAL BACKa9-00-00a>1a>2a>3a>4a>5a>6a;1-00a>1a>2a>3a>4a>5a",
   ">6a;2-00a>1a>2a>3a>4a>5a>6a;3-00a>1a>2a>3a>4a>5a>6a;4-00a>1a>2a>3a>4a>5a>6a;5-00a>1a>2a>3a>4a>5a",
   ">6a;6-00a>1a>2a>3a>4a>5a>6m!PLAYING CARD BACKa2ACE OF SPADESa2TWO OF SPADESa3HREE OF SPADESa2FOU",
   "R OF SPADESa3IVE OF SPADESa2SIX OF SPADESa3EVEN OF SPADESa2EIGHT OF SPADESa2NINE OF SPADESa2TEN ",
   "OF SPADESa2JACK OF SPADESa2KNIGHT OF SPADESa2QUEEN OF SPADESa2KING OF SPADESc2ACE OF HEARTSa2TWO",
   " OF HEARTSa3HREE OF HEARTSa2FOUR OF HEARTSa3IVE OF HEARTSa2SIX OF HEARTSa3EVEN OF HEARTSa2EIGHT ",
   "OF HEARTSa2NINE OF HEARTSa2TEN OF HEARTSa2JACK OF HEARTSa2KNIGHT OF HEARTSa2QUEEN OF HEARTSa2KIN",
   "G OF HEARTSa2RED JOKERb2ACE OF DIAMONDSa2TWO OF DIAMONDSa3HREE OF DIAMONDSa2FOUR OF DIAMONDSa3IV",
   "E OF DIAMONDSa2SIX OF DIAMONDSa3EVEN OF DIAMONDSa2EIGHT OF DIAMONDSa2NINE OF DIAMONDSa2TEN OF DI",
   "AMONDSa2JACK OF DIAMONDSa2KNIGHT OF DIAMONDSa2QUEEN OF DIAMONDSa2KING OF DIAMONDSa2BLACK JOKERb2",
   "ACE OF CLUBSa2TWO OF CLUBSa3HREE OF CLUBSa2FOUR OF CLUBSa3IVE OF CLUBSa2SIX OF CLUBSa3EVEN OF CL",
   "UBSa2EIGHT OF CLUBSa2NINE OF CLUBSa2TEN OF CLUBSa2JACK OF CLUBSa2KNIGHT OF CLUBSa2QUEEN OF CLUBS",
   "a2KING OF CLUBSa2WHITE JOKERa2FOOLa2TRUMP-1a82a83a84a85a86a87a88a89a810a91a92a93a94a95a96a97a98a",
   "99a820a91k!DIGIT ZERO FULL STOPa0COMMAa)ONE COMMAa)TWO COMMAa*HREE COMMAa)FOUR COMMAa*IVE COMMAa",
   ")SIX COMMAa*EVEN COMMAa)EIGHT COMMAa)NINE COMMAa$NGBAT CIRCLED SANS-SERIF DIGIT ZEROa+NEGATIVE C",
   "IRCLED SANS-SERIF DIGIT ZEROa!CIRCLED ZERO WITH SLASHa+ANTICLOCKWISE ARROWa+DOLLAR SIGN WITH OVE",
   "RLAID BACKSLASHa!PARENTHESIZED LATIN CAPITAL LETTER AaHBaHCaHDaHEaHFaHGaHHaHIaHJaHKaHLaHMaHNaHOa",
   "HPaHQaHRaHSaHTaHUaHVaHWaHXaHYaHZa!TORTOISE SHELL BRACKETED LATIN CAPITAL LETTER Sa!CIRCLED ITALI",
   "C LATIN CAPITAL LETTER CaIRa+CDa+WZa#OPYLEFT SYMBOLa!SQUARED LATIN CAPITAL LETTER AaBBaBCaBDaBEa",
   "BFaBGaBHaBIaBJaBKaBLaBMaBNaBOaBPaBQaBRaBSaBTaBUaBVaBWaBXaBYaBZa+HVa+MVa+SDa,Sa+PPVa+WCa!NEGATIVE",
   " CIRCLED LATIN CAPITAL LETTER AaKBaKCaKDaKEaKFaKGaKHaKIaKJaKKaKLaKMaKNaKOaKPaKQaKRaKSaKTaKUaKVaK",
   "WaKXaKYaKZa!RAISED MC SIGNa+D SIGNa+R SIGNa!CIRCLED CCa, WITH OVERLAID BACKSLASHa+HUMAN FIGUREa!",
   "NEGATIVE SQUARED LATIN CAPITAL LETTER AaKBaKCaKDaKEaKFaKGaKHaKIaKJaKKaKLaKMaKNaKOaKPaKQaKRaKSaKT",
   "aKUaKVaKWaKXaKYaKZa!CROSSED NEGATIVE SQUARED LATIN CAPITAL LETTER Pa!NEGATIVE SQUARED ICa6PAa6SA",
   "a6ABa6WCa!SQUARE DJa)D CLa,OOLa+FREEa+IDa+NEWa,Ga+OKa+SOSa+UP WITH EXCLAMATION MARKa+VSa+THREE D",
   "a+SECOND SCREENa+TWO Ka+FOUR Ka+EIGHT Ka+FIVE POINT ONEa+SEVEN POINT ONEa+TWENTY-TWO POINT TWOa+",
   "SIXTY Pa+ONE HUNDRED TWENTY Pa+LATIN SMALL LETTER Da+HCa,DRa,I-RESa+LOSSLESSa+SHVa+UHDa+VODa!MAS",
   "K WORK SYMBOL!57!!REGIONAL INDICATOR SYMBOL LETTER AaFBaFCaFDaFEaFFaFGaFHaFIaFJaFKaFLaFMaFNaFOaF",
   "PaFQaFRaFSaFTaFUaFVaFWaFXaFYaFZa!SQUARE HIRAGANA HOKAa)D KATAKANA KOKOa6SAn+CJK UNIFIED IDEOGRAP",
   "H-624BaC5B57aD3CCa+KATAKANA DEa+CJK UNIFIED IDEOGRAPH-4E8CaC591AaC89E3aC5929aC4EA4aC6620aC7121aC",
   "6599aC524DaDF8CaD18DaC65B0aC521DaC7D42aD51FaC8CA9aC58F0aD439aC6F14aD295aD355aC4E00aF9aC904AaC5DE",
   "6aC4E2DaC53F3aC6307aC8D70aC6253aC7981aDA7AaC5408aC6E80aD709aF8aC7533aC5272aD5B6aC914De!TORTOISE ",
   "SHELL BRACKETED CJK UNIFIED IDEOGRAPH-672CaT4E09aV8CaT5B89aT70B9aT6253aT76D7aT52DDaT6557h!CIRCLE",
   "D IDEOGRAPH ADVANTAGEa8CCEPTo!ROUNDED SYMBOL FOR FUa8LUa8SHOUa8XIa8SHUANGXIa8CAI!155!!CYCLONEa!F",
   "OGGYa!CLOSED UMBRELLAa!NIGHT WITH STARSa!SUNRISE OVER MOUNTAINSa)Ea!CITYSCAPE AT DUSKa!SUNSET OV",
   "ER BUILDINGSa!RAINBOWa!BRIDGE AT NIGHTa!WATER WAVEa!VOLCANOa!MILKY WAYa!EARTH GLOBE EUROPE-AFRIC",
   "Aa1AMERICASa2SIA-AUSTRALIAa!GLOBE WITH MERIDIANSa!NEW MOON SYMBOLa!WAXING CRESCENT MOON SYMBOLa!",
   "FIRST QUARTER MOON SYMBOLa!WAXING GIBBOUS MOON SYMBOLa!FULL MOON SYMBOLa!WANING GIBBOUS MOON SYM",
   "BOLa!LAST QUARTER MOON SYMBOLa!WANING CRESCENT MOON SYMBOLa!CRESCENT MOONa!NEW MOON WITH FACEa!F",
   "IRST QUARTER MOON WITH FACEa!LAST QUARTER MOON WITH FACEa!FULL MOON WITH FACEa!SUN WITH FACEa!GL",
   "OWING STARa!SHOOTING STARa!THERMOMETERa!BLACK DROPLETa!WHITE SUNa, WITH SMALL CLOUDa.BEHIND CLOU",
   "Da; WITH RAINa!CLOUD WITH RAINa0SNOWa0LIGHTNINGa0TORNADOa!FOGa!WIND BLOWING FACEa!HOT DOGa!TACOa",
   "!BURRITOa!CHESTNUTa!SEEDLINGa!EVERGREEN TREEa!DECIDUOUS TREEa!PALM TREEa!CACTUSa!HOT PEPPERa!TUL",
   "IPa!CHERRY BLOSSOMa!ROSEa!HIBISCUSa!SUNFLOWERa!BLOSSOMa!EAR OF MAIZEa*RICEa!HERBa!FOUR LEAF CLOV",
   "ERa!MAPLE LEAFa!FALLEN LEAFa!LEAF FLUTTERING IN WINDa!MUSHROOMa!TOMATOa!AUBERGINEa!GRAPESa!MELON",
   "a!WATERMELONa!TANGERINEa!LEMONa!BANANAa!PINEAPPLEa!RED APPLEa!GREEN APPLEa!PEARa%CHa!CHERRIESa!S",
   "TRAWBERRYa!HAMBURGERa!SLICE OF PIZZAa!MEAT ON BONEa!POULTRY LEGa!RICE CRACKERa(BALLa!COOKED RICE",
   "a#URRY AND RICEa!STEAMING BOWLa#PAGHETTIa!BREADa!FRENCH FRIESa!ROASTED SWEET POTATOa!DANGOa!ODEN",
   "a!SUSHIa!FRIED SHRIMPa#ISH CAKE WITH SWIRL DESIGNa!SOFT ICE CREAMa#HAVED ICEa!ICE CREAMa!DOUGHNU",
   "Ta!COOKIEa#HOCOLATE BARa#ANDYa!LOLLIPOPa!CUSTARDa!HONEY POTa!SHORTCAKEa!BENTO BOXa!POT OF FOODa!",
   "COOKINGa!FORK AND KNIFEa!TEACUP WITHOUT HANDLEa!SAKE BOTTLE AND CUPa!WINE GLASSa!COCKTAIL GLASSa",
   "!TROPICAL DRINKa!BEER MUGa!CLINKING BEER MUGSa!BABY BOTTLEa!FORK AND KNIFE WITH PLATEa!BOTTLE WI",
   "TH POPPING CORKa!POPCORNa!RIBBONa!WRAPPED PRESENTa!BIRTHDAY CAKEa!JACK-O-LANTERNa!CHRISTMAS TREE",
   "a!FATHER CHRISTMASa#IREWORKSa+ SPARKLERa!BALLOONa!PARTY POPPERa!CONFETTI BALLa!TANABATA TREEa!CR",
   "OSSED FLAGSa!PINE DECORATIONa!JAPANESE DOLLSa!CARP STREAMERa!WIND CHIMEa!MOON VIEWING CEREMONYa!",
   "SCHOOL SATCHELa!GRADUATION CAPa!HEART WITH TIP ON THE LEFTa!BOUQUET OF FLOWERSa!MILITARY MEDALa!",
   "REMINDER RIBBONa!MUSICAL KEYBOARD WITH JACKSa!STUDIO MICROPHONEa!LEVEL SLIDERa!CONTROL KNOBSa!BE",
   "AMED ASCENDING MUSICAL NOTESa*DESCENDING MUSICAL NOTESa!FILM FRAMESa!ADMISSION TICKETSa!CAROUSEL",
   " HORSEa!FERRIS WHEELa!ROLLER COASTERa!FISHING POLE AND FISHa!MICROPHONEa#OVIE CAMERAa!CINEMAa!HE",
   "ADPHONEa!ARTIST PALETTEa!TOP HATa!CIRCUS TENTa!TICKETa!CLAPPER BOARDa!PERFORMING ARTSa!VIDEO GAM",
   "Ea!DIRECT HITa!SLOT MACHINEa!BILLIARDSa!GAME DIEa!BOWLINGa!FLOWER PLAYING CARDSa!MUSICAL NOTEa$L",
   "TIPLE MUSICAL NOTESa!SAXOPHONEa!GUITARa!MUSICAL KEYBOARDa!TRUMPETa!VIOLINa!MUSICAL SCOREa!RUNNIN",
   "G SHIRT WITH SASHa!TENNIS RACQUET AND BALLa!SKI AND SKI BOOTa!BASKETBALL AND HOOPa!CHEQUERED FLA",
   "Ga!SNOWBOARDERa!RUNNERa!SURFERa#PORTS MEDALa!TROPHYa!HORSE RACINGa!AMERICAN FOOTBALLa!RUGBY FOOT",
   "BALLa!SWIMMERa!WEIGHT LIFTERa!GOLFERa!RACING MOTORCYCLEa*CARa!CRICKET BAT AND BALLa!VOLLEYBALLa!",
   "FIELD HOCKEY STICK AND BALLa!ICE HOCKEY STICK AND PUCKa!TABLE TENNIS PADDLE AND BALLa!SNOW CAPPE",
   "D MOUNTAINa!CAMPINGa!BEACH WITH UMBRELLAa#UILDING CONSTRUCTIONa!HOUSE BUILDINGSa!CITYSCAPEa!DERE",
   "LICT HOUSE BUILDINGa!CLASSICAL BUILDINGa!DESERTa) ISLANDa!NATIONAL PARKa!STADIUMa!HOUSE BUILDING",
   "a)WITH GARDENa!OFFICE BUILDINGa!JAPANESE POST OFFICEa!EUROPEAN POST OFFICEa!HOSPITALa!BANKa!AUTO",
   "MATED TELLER MACHINEa!HOTELa!LOVE HOTELa!CONVENIENCE STOREa!SCHOOLa!DEPARTMENT STOREa!FACTORYa!I",
   "ZAKAYA LANTERNa!JAPANESE CASTLEa!EUROPEAN CASTLEa!WHITE PENNANTa!BLACK PENNANTa!WAVING WHITE FLA",
   "Ga*BLACK FLAGa!ROSETTEa!BLACK ROSETTEa!LABELa!BADMINTON RACQUET AND SHUTTLECOCKa#OW AND ARROWa!A",
   "MPHORAa!EMOJI MODIFIER FITZPATRICK TYPE-1-2aE3aE4aE5aE6a!RATa!MOUSEa!OXa!WATER BUFFALOa!COWa!TIG",
   "ERa!LEOPARDa!RABBITa!CATa!DRAGONa!CROCODILEa!WHALEa!SNAILa%KEa!HORSEa!RAMa!GOATa!SHEEPa!MONKEYa!",
   "ROOSTERa!CHICKENa!DOGa!PIGa!BOARa!ELEPHANTa!OCTOPUSa!SPIRAL SHELLa!BUGa!ANTa!HONEYBEEa!LADY BEET",
   "LEa!FISHa!TROPICAL FISHa!BLOWFISHa!TURTLEa!HATCHING CHICKa!BABY CHICKa!FRONT-FACING BABY CHICKa!",
   "BIRDa!PENGUINa!KOALAa!POODLEa!DROMEDARY CAMELa!BACTRIAN CAMELa!DOLPHINa!MOUSE FACEa!COW FACEa!TI",
   "GER FACEa!RABBIT FACEa!CAT FACEa!DRAGON FACEa!SPOUTING WHALEa!HORSE FACEa!MONKEY FACEa!DOG FACEa",
   "!PIG FACEa!FROG FACEa!HAMSTER FACEa!WOLF FACEa!BEAR FACEa!PANDA FACEa#IG NOSEa#AW PRINTSa!CHIPMU",
   "NKa!EYESa$Ea#ARa!NOSEa!MOUTHa!TONGUEa!WHITE UP POINTING BACKHAND INDEXa)DOWN POINTING BACKHAND I",
   "NDEXa)LEFT POINTING BACKHAND INDEXa)RIGHT POINTING BACKHAND INDEXa!FISTED HAND SIGNa!WAVING HAND",
   " SIGNa!OK HAND SIGNa!THUMBS UP SIGNa*DOWN SIGNa!CLAPPING HANDS SIGNa!OPEN HANDS SIGNa!CROWNa!WOM",
   "ANS HATa!EYEGLASSESa!NECKTIEa!T-SHIRTa!JEANSa!DRESSa!KIMONOa!BIKINIa!WOMANS CLOTHESa!PURSEa!HAND",
   "BAGa!POUCHa!MANS SHOEa!ATHLETIC SHOEa!HIGH-HEELED SHOEa!WOMANS SANDALa*BOOTSa!FOOTPRINTSa!BUST I",
   "N SILHOUETTEa&S IN SILHOUETTEa#OYa!GIRLa!MANa!WOMANa!FAMILYa!MAN AND WOMAN HOLDING HANDSa!TWO ME",
   "N HOLDING HANDSa&WOMEN HOLDING HANDSa!POLICE OFFICERa!WOMAN WITH BUNNY EARSa!BRIDE WITH VEILa!PE",
   "RSON WITH BLOND HAIRa!MAN WITH GUA PI MAOa,TURBANa!OLDER MANa)WOMANa!BABYa!CONSTRUCTION WORKERa!",
   "PRINCESSa!JAPANESE OGREa,GOBLINa!GHOSTa!BABY ANGELa!EXTRATERRESTRIAL ALIENa!ALIEN MONSTERa!IMPa!",
   "SKULLa!INFORMATION DESK PERSONa!GUARDSMANa!DANCERa!LIPSTICKa!NAIL POLISHa!FACE MASSAGEa!HAIRCUTa",
   "!BARBER POLEa!SYRINGEa!PILLa!KISS MARKa!LOVE LETTERa!RINGa!GEM STONEa!KISSa!BOUQUETa!COUPLE WITH",
   " HEARTa!WEDDINGa!BEATING HEARTa#ROKEN HEARTa!TWO HEARTSa!SPARKLING HEARTa!GROWING HEARTa!HEART W",
   "ITH ARROWa!BLUE HEARTa!GREEN HEARTa!YELLOW HEARTa!PURPLE HEARTa!HEART WITH RIBBONa!REVOLVING HEA",
   "RTSa!HEART DECORATIONa!DIAMOND SHAPE WITH A DOT INSIDEa!ELECTRIC LIGHT BULBa!ANGER SYMBOLa!BOMBa",
   "!SLEEPING SYMBOLa!COLLISION SYMBOLa!SPLASHING SWEAT SYMBOLa!DROPLETa#ASH SYMBOLa!PILE OF POOa!FL",
   "EXED BICEPSa!DIZZY SYMBOLa!SPEECH BALLOONa!THOUGHT BALLOONa!WHITE FLOWERa!HUNDRED POINTS SYMBOLa",
   "!MONEY BAGa!CURRENCY EXCHANGEa!HEAVY DOLLAR SIGNa!CREDIT CARDa!BANKNOTE WITH YEN SIGNa3DOLLAR SI",
   "GNa3EURO SIGNa3POUND SIGNa!MONEY WITH WINGSa!CHART WITH UPWARDS TREND AND YEN SIGNa!SEATa!PERSON",
   "AL COMPUTERa!BRIEFCASEa!MINIDISCa!FLOPPY DISKa!OPTICAL DISCa!DVDa!FILE FOLDERa!OPEN FILE FOLDERa",
   "!PAGE WITH CURLa(FACING UPa!CALENDARa!TEAR-OFF CALENDARa!CARD INDEXa#HART WITH UPWARDS TRENDa0DO",
   "WNWARDS TRENDa!BAR CHARTa!CLIPBOARDa!PUSHPINa!ROUND PUSHPINa!PAPERCLIPa!STRAIGHT RULERa!TRIANGUL",
   "AR RULERa!BOOKMARK TABSa!LEDGERa!NOTEBOOKa+ WITH DECORATIVE COVERa!CLOSED BOOKa!OPEN BOOKa!GREEN",
   " BOOKa!BLUE BOOKa!ORANGE BOOKa!BOOKSa!NAME BADGEa!SCROLLa!MEMOa!TELEPHONE RECEIVERa!PAGERa!FAX M",
   "ACHINEa!SATELLITE ANTENNAa!PUBLIC ADDRESS LOUDSPEAKERa!CHEERING MEGAPHONEa!OUTBOX TRAYa!INBOX TR",
   "AYa!PACKAGEa!E-MAIL SYMBOLa!INCOMING ENVELOPEa!ENVELOPE WITH DOWNWARDS ARROW ABOVEa!CLOSED MAILB",
   "OX WITH LOWERED FLAGa9RAISED FLAGa!OPEN MAILBOX WITH RAISED FLAGa7LOWERED FLAGa!POSTBOXa&AL HORN",
   "a!NEWSPAPERa!MOBILE PHONEa1 WITH RIGHTWARDS ARROW AT LEFTa!VIBRATION MODEa!MOBILE PHONE OFFa!NO ",
   "MOBILE PHONESa!ANTENNA WITH BARSa!CAMERAa) WITH FLASHa!VIDEO CAMERAa!TELEVISIONa!RADIOa!VIDEOCAS",
   "SETTEa!FILM PROJECTORa!PORTABLE STEREOa#RAYER BEADSa!TWISTED RIGHTWARDS ARROWSa!CLOCKWISE RIGHTW",
   "ARDS AND LEFTWARDS OPEN CIRCLE ARROWSaZ WITH CIRCLED ONE OVERLAYa.DOWNWARDS AND UPWARDS OPEN CIR",
   "CLE ARROWSa!ANTICLOCKWISE DOWNWARDS AND UPWARDS OPEN CIRCLE ARROWSa!LOW BRIGHTNESS SYMBOLa!HIGH ",
   "BRIGHTNESS SYMBOLa!SPEAKER WITH CANCELLATION STROKEa)Ra* WITH ONE SOUND WAVEa2THREE SOUND WAVESa",
   "!BATTERYa!ELECTRIC PLUGa!LEFT-POINTING MAGNIFYING GLASSa!RIGHT-POINTING MAGNIFYING GLASSa!LOCK W",
   "ITH INK PENa!CLOSED LOCK WITH KEYa!KEYa!LOCKa!OPEN LOCKa!BELLa& WITH CANCELLATION STROKEa#OOKMAR",
   "Ka!LINK SYMBOLa!RADIO BUTTONa!BACK WITH LEFTWARDS ARROW ABOVEa!END WITH LEFTWARDS ARROW ABOVEa!O",
   "N WITH EXCLAMATION MARK WITH LEFT RIGHT ARROW ABOVEa!SOON WITH RIGHTWARDS ARROW ABOVEa!TOP WITH ",
   "UPWARDS ARROW ABOVEa!NO ONE UNDER EIGHTEEN SYMBOLa!KEYCAP TENa!INPUT SYMBOL FOR LATIN CAPITAL LE",
   "TTERSa<SMALL LETTERSa6NUMBERSa6SYMBOLSa6LATIN LETTERSa!FIREa!ELECTRIC TORCHa!WRENCHa!HAMMERa!NUT",
   " AND BOLTa!HOCHOa!PISTOLa!MICROSCOPEa!TELESCOPEa!CRYSTAL BALLa!SIX POINTED STAR WITH MIDDLE DOTa",
   "!JAPANESE SYMBOL FOR BEGINNERa!TRIDENT EMBLEMa!BLACK SQUARE BUTTONa!WHITE SQUARE BUTTONa!LARGE R",
   "ED CIRCLEa)BLUE CIRCLEa)ORANGE DIAMONDa)BLUE DIAMONDa!SMALL ORANGE DIAMONDa)BLUE DIAMONDa!UP-POI",
   "NTING RED TRIANGLEa!DOWN-POINTING RED TRIANGLEa!UP-POINTING SMALL RED TRIANGLEa!DOWN-POINTING SM",
   "ALL RED TRIANGLEa!LOWER RIGHT SHADOWED WHITE CIRCLEa!UPPER RIGHT SHADOWED WHITE CIRCLEa!CIRCLED ",
   "CROSS POMMEEa#ROSS POMMEE WITH HALF-CIRCLE BELOWa0Ea!NOTCHED LEFT SEMICIRCLE WITH THREE DOTSa+RI",
   "GHT SEMICIRCLE WITH THREE DOTSa!SYMBOL FOR MARKS CHAPTERa!WHITE LATIN CROSSa!HEAVY LATIN CROSSa!",
   "CELTIC CROSSa!OM SYMBOLa!DOVE OF PEACEa!KAABAa!MOSQUEa!SYNAGOGUEa!MENORAH WITH NINE BRANCHESa!BO",
   "WL OF HYGIEIAa!CLOCK FACE ONE OCLOCKa0TWO OCLOCKa1HREE OCLOCKa0FOUR OCLOCKa1IVE OCLOCKa0SIX OCLO",
   "CKa1EVEN OCLOCKa0EIGHT OCLOCKa0NINE OCLOCKa0TEN OCLOCKa0ELEVEN OCLOCKa0TWELVE OCLOCKa0ONE-THIRTY",
   "a0TWO-THIRTYa1HREE-THIRTYa0FOUR-THIRTYa1IVE-THIRTYa0SIX-THIRTYa1EVEN-THIRTYa0EIGHT-THIRTYa0NINE-",
   "THIRTYa0TEN-THIRTYa0ELEVEN-THIRTYa0TWELVE-THIRTYa!RIGHT SPEAKERa2 WITH ONE SOUND WAVEa8THREE SOU",
   "ND WAVESa!BULLHORNa+ WITH SOUND WAVESa!RINGING BELLa!BOOKa!CANDLEa!MANTELPIECE CLOCKa!BLACK SKUL",
   "L AND CROSSBONESa!NO PIRACYa!HOLEa!MAN IN BUSINESS SUIT LEVITATINGa!SLEUTH OR SPYa!DARK SUNGLASS",
   "ESa!SPIDERa) WEBa!JOYSTICKa!MAN DANCINGa!LEFT HAND TELEPHONE RECEIVERa!TELEPHONE RECEIVER WITH P",
   "AGEa!RIGHT HAND TELEPHONE RECEIVERa!WHITE TOUCHTONE TELEPHONEa!BLACK TOUCHTONE TELEPHONEa!TELEPH",
   "ONE ON TOP OF MODEMa!CLAMSHELL MOBILE PHONEa!BACK OF ENVELOPEa!STAMPED ENVELOPEa!ENVELOPE WITH L",
   "IGHTNINGa!FLYING ENVELOPEa!PEN OVER STAMPED ENVELOPEa!LINKED PAPERCLIPSa!BLACK PUSHPINa!LOWER LE",
   "FT PENCILa0BALLPOINT PENa0FOUNTAIN PENa0PAINTBRUSHa0CRAYONa#EFT WRITING HANDa!TURNED OK HAND SIG",
   "Na!RAISED HAND WITH FINGERS SPLAYEDa#EVERSED RAISED HAND WITH FINGERS SPLAYEDa,THUMBS UP SIGNa5D",
   "OWN SIGNa,VICTORY HANDa,HAND WITH MIDDLE FINGER EXTENDEDa#AISED HAND WITH PART BETWEEN MIDDLE AN",
   "D RING FINGERSa!WHITE DOWN POINTING LEFT HAND INDEXa!SIDEWAYS WHITE LEFT POINTING INDEXa4RIGHT P",
   "OINTING INDEXa,BLACK LEFT POINTING INDEXa4RIGHT POINTING INDEXa!BLACK LEFT POINTING BACKHAND IND",
   "EXa)RIGHT POINTING BACKHAND INDEXa!SIDEWAYS WHITE UP POINTING INDEXa4DOWN POINTING INDEXa,BLACK ",
   "UP POINTING INDEXa4DOWN POINTING INDEXa!BLACK UP POINTING BACKHAND INDEXa)DOWN POINTING BACKHAND",
   " INDEXa)HEARTa!DESKTOP COMPUTERa!KEYBOARD AND MOUSEa!THREE NETWORKED COMPUTERSa!PRINTERa#OCKET C",
   "ALCULATORa!BLACK HARD SHELL FLOPPY DISKa!WHITE HARD SHELL FLOPPY DISKa!SOFT SHELL FLOPPY DISKa!T",
   "APE CARTRIDGEa!WIRED KEYBOARDa!ONE BUTTON MOUSEa!TWO BUTTON MOUSEa#HREE BUTTON MOUSEa#RACKBALLa!",
   "OLD PERSONAL COMPUTERa!HARD DISKa!SCREENa!PRINTER ICONa!FAX ICONa!OPTICAL DISC ICONa!DOCUMENT WI",
   "TH TEXTa7 AND PICTUREa3PICTUREa!FRAME WITH PICTUREa0TILESa0AN Xa!BLACK FOLDERa!FOLDERa!OPEN FOLD",
   "ERa!CARD INDEX DIVIDERSa(FILE BOXa!FILE CABINETa!EMPTY NOTEa. PAGEa2Da!NOTEa& PAGEa*Da!EMPTY DOC",
   "UMENTa)PAGEa.Sa!DOCUMENTa!PAGEa&Sa!WASTEBASKETa!SPIRAL NOTE PADa*CALENDAR PADa!DESKTOP WINDOWa!M",
   "INIMIZEa#AXIMIZEa!OVERLAPa!CLOCKWISE RIGHT AND LEFT SEMICIRCLE ARROWSa#ANCELLATION Xa!INCREASE F",
   "ONT SIZE SYMBOLa!DECREASE FONT SIZE SYMBOLa!COMPRESSIONa!OLD KEYa!ROLLED-UP NEWSPAPERa!PAGE WITH",
   " CIRCLED TEXTa!STOCK CHARTa!DAGGER KNIFEa!LIPSa!SPEAKING HEAD IN SILHOUETTEa!THREE RAYS ABOVEa0B",
   "ELOWa0LEFTa0RIGHTa!LEFT SPEECH BUBBLEa!RIGHT SPEECH BUBBLEa!TWO SPEECH BUBBLESa#HREE SPEECH BUBB",
   "LESa!LEFT THOUGHT BUBBLEa!RIGHT THOUGHT BUBBLEa!LEFT ANGER BUBBLEa!RIGHT ANGER BUBBLEa!MOOD BUBB",
   "LEa!LIGHTNING MOOD BUBBLEa2Da!BALLOT BOX WITH BALLOTa*SCRIPT Xa*BOX WITH SCRIPT Xa,LD SCRIPT Xa,",
   "X WITH BOLD SCRIPT Xa!LIGHT CHECK MARKa!BALLOT BOX WITH BOLD CHECKa!WORLD MAPa!MOUNT FUJIa!TOKYO",
   " TOWERa!STATUE OF LIBERTYa#ILHOUETTE OF JAPANa!MOYAIa!GRINNING FACEa2 WITH SMILING EYESa!FACE WI",
   "TH TEARS OF JOYa!SMILING FACE WITH OPEN MOUTHaA AND SMILING EYESaFCOLD SWEATaFTIGHTLY-CLOSED EYE",
   "Sa7HALOa8ORNSa!WINKING FACEa!SMILING FACE WITH SMILING EYESa!FACE SAVOURING DELICIOUS FOODa!RELI",
   "EVED FACEa!SMILING FACE WITH HEART-SHAPED EYESa7SUNGLASSESa%RKING FACEa!NEUTRAL FACEa!EXPRESSION",
   "LESS FACEa!UNAMUSED FACEa!FACE WITH COLD SWEATa!PENSIVE FACEa!CONFUSED FACEa&OUNDED FACEa!KISSIN",
   "G FACEa!FACE THROWING A KISSa!KISSING FACE WITH SMILING EYESa7CLOSED EYESa!FACE WITH STUCK-OUT T",
   "ONGUEa? AND WINKING EYEaDTIGHTLY-CLOSED EYESa!DISAPPOINTED FACEa!WORRIED FACEa!ANGRY FACEa!POUTI",
   "NG FACEa!CRYING FACEa!PERSEVERING FACEa!FACE WITH LOOK OF TRIUMPHa!DISAPPOINTED BUT RELIEVED FAC",
   "Ea!FROWNING FACE WITH OPEN MOUTHa!ANGUISHED FACEa!FEARFUL FACEa!WEARY FACEa!SLEEPY FACEa!TIRED F",
   "ACEa!GRIMACING FACEa!LOUDLY CRYING FACEa!FACE WITH OPEN MOUTHa!HUSHED FACEa!FACE WITH OPEN MOUTH",
   " AND COLD SWEATa(SCREAMING IN FEARa!ASTONISHED FACEa!FLUSHED FACEa!SLEEPING FACEa!DIZZY FACEa!FA",
   "CE WITHOUT MOUTHa, MEDICAL MASKa!GRINNING CAT FACE WITH SMILING EYESa!CAT FACE WITH TEARS OF JOY",
   "a!SMILING CAT FACE WITH OPEN MOUTHa;HEART-SHAPED EYESa!CAT FACE WITH WRY SMILEa!KISSING CAT FACE",
   " WITH CLOSED EYESa!POUTING CAT FACEa!CRYING CAT FACEa!WEARY CAT FACEa!SLIGHTLY FROWNING FACEa,SM",
   "ILING FACEa!UPSIDE-DOWN FACEa!FACE WITH ROLLING EYESa.NO GOOD GESTUREa.OK GESTUREa!PERSON BOWING",
   " DEEPLYa!SEE-NO-EVIL MONKEYa!HEAR-NO-EVIL MONKEYa!SPEAK-NO-EVIL MONKEYa!HAPPY PERSON RAISING ONE",
   " HANDa!PERSON RAISING BOTH HANDS IN CELEBRATIONa*FROWNINGa*WITH POUTING FACEa1FOLDED HANDSa!NORT",
   "H WEST POINTING LEAFa!SOUTH WEST POINTING LEAFa!NORTH EAST POINTING LEAFa!SOUTH EAST POINTING LE",
   "AFa!TURNED NORTH WEST POINTING LEAFa*SOUTH WEST POINTING LEAFa*NORTH EAST POINTING LEAFa*SOUTH E",
   "AST POINTING LEAFa!NORTH WEST POINTING VINE LEAFa!SOUTH WEST POINTING VINE LEAFa!NORTH EAST POIN",
   "TING VINE LEAFa!SOUTH EAST POINTING VINE LEAFa!HEAVY NORTH WEST POINTING VINE LEAFa)SOUTH WEST P",
   "OINTING VINE LEAFa)NORTH EAST POINTING VINE LEAFa)SOUTH EAST POINTING VINE LEAFa!NORTH WEST POIN",
   "TING BUDa!SOUTH WEST POINTING BUDa!NORTH EAST POINTING BUDa!SOUTH EAST POINTING BUDa!HEAVY NORTH",
   " WEST POINTING BUDa)SOUTH WEST POINTING BUDa)NORTH EAST POINTING BUDa)SOUTH EAST POINTING BUDa#O",
   "LLOW QUILT SQUARE ORNAMENTaA IN BLACK SQUAREa!SOLID QUILT SQUARE ORNAMENTa@ IN BLACK SQUAREa!LEF",
   "TWARDS ROCKETa!UPWARDS ROCKETa!RIGHTWARDS ROCKETa!DOWNWARDS ROCKETa!SCRIPT LIGATURE ET ORNAMENTa",
   "!HEAVY SCRIPT LIGATURE ET ORNAMENTa!LIGATURE OPEN ET ORNAMENTa!HEAVY LIGATURE OPEN ET ORNAMENTa)",
   "AMPERSAND ORNAMENTa!SWASH AMPERSAND ORNAMENTa#ANS-SERIF HEAVY DOUBLE TURNED COMMA QUOTATION MARK",
   " ORNAMENTa=COMMA QUOTATION MARK ORNAMENTa6LOW DOUBLE COMMA QUOTATION MARK ORNAMENTa!HEAVY INTERR",
   "OBANG ORNAMENTa!SANS-SERIF INTERROBANG ORNAMENTa!HEAVY SANS-SERIF INTERROBANG ORNAMENTa!VERY HEA",
   "VY SOLIDUSa0REVERSE SOLIDUSa!CHECKER BOARDa!REVERSE CHECKER BOARDa#OCKETa!HELICOPTERa!STEAM LOCO",
   "MOTIVEa!RAILWAY CARa!HIGH-SPEED TRAINa5 WITH BULLET NOSEa!TRAINa!METROa!LIGHT RAILa!STATIONa!TRA",
   "Ma& CARa!BUSa!ONCOMING BUSa!TROLLEYBUSa!BUS STOPa!MINIBUSa!AMBULANCEa!FIRE ENGINEa!POLICE CARa!O",
   "NCOMING POLICE CARa!TAXIa!ONCOMING TAXIa!AUTOMOBILEa!ONCOMING AUTOMOBILEa!RECREATIONAL VEHICLEa!",
   "DELIVERY TRUCKa!ARTICULATED LORRYa!TRACTORa!MONORAILa$UNTAIN RAILWAYa!SUSPENSION RAILWAYa!MOUNTA",
   "IN CABLEWAYa!AERIAL TRAMWAYa!SHIPa!ROWBOATa!SPEEDBOATa!HORIZONTAL TRAFFIC LIGHTa!VERTICAL TRAFFI",
   "C LIGHTa!CONSTRUCTION SIGNa!POLICE CARS REVOLVING LIGHTa!TRIANGULAR FLAG ON POSTa!DOORa!NO ENTRY",
   " SIGNa!SMOKING SYMBOLa!NO SMOKING SYMBOLa!PUT LITTER IN ITS PLACE SYMBOLa!DO NOT LITTER SYMBOLa!",
   "POTABLE WATER SYMBOLa!NON-POTABLE WATER SYMBOLa!BICYCLEa!NO BICYCLESa!BICYCLISTa!MOUNTAIN BICYCL",
   "ISTa!PEDESTRIANa!NO PEDESTRIANSa!CHILDREN CROSSINGa!MENS SYMBOLa!WOMENS SYMBOLa!RESTROOMa!BABY S",
   "YMBOLa!TOILETa!WATER CLOSETa!SHOWERa!BATHa&TUBa!PASSPORT CONTROLa!CUSTOMSa!BAGGAGE CLAIMa!LEFT L",
   "UGGAGEa!TRIANGLE WITH ROUNDED CORNERSa!PROHIBITED SIGNa!CIRCLED INFORMATION SOURCEa!BOYS SYMBOLa",
   "!GIRLS SYMBOLa!COUCH AND LAMPa!SLEEPING ACCOMMODATIONa#HOPPING BAGSa!BELLHOP BELLa$Da!PLACE OF W",
   "ORSHIPa!OCTAGONAL SIGNa!SHOPPING TROLLEYa#TUPAa!PAGODAa!HINDU TEMPLEa#UTa!ELEVATORe!WIRELESSa!PL",
   "AYGROUND SLIDEa!WHEELa!RING BUOYa!HAMMER AND WRENCHa!SHIELDa!OIL DRUMa!MOTORWAYa!RAILWAY TRACKa!",
   "MOTOR BOATa!UP-POINTING MILITARY AIRPLANEa1AIRPLANEa1SMALL AIRPLANEa!SMALL AIRPLANEa!NORTHEAST-P",
   "OINTING AIRPLANEa!AIRPLANE DEPARTUREa,ARRIVINGd!SATELLITEa!ONCOMING FIRE ENGINEa!DIESEL LOCOMOTI",
   "VEa!PASSENGER SHIPa!SCOOTERa!MOTOR SCOOTERa!CANOEa!SLEDa!FLYING SAUCERa!SKATEBOARDa!AUTO RICKSHA",
   "Wa!PICKUP TRUCKa!ROLLER SKATEd!ALCHEMICAL SYMBOL FOR QUINTESSENCEa;AIRa;FIREa;EARTHa;WATERa;AQUA",
   "FORTISa? REGIAaE-2a@VITAEaE-2a;VINEGARaB-2aC3a;SULFURa;PHILOSOPHERS SULFURa;BLACK SULFURa;MERCUR",
   "Y SUBLIMATEaL-2aM3a;CINNABARa;SALTa;NITREa;VITRIOLaB-2a;ROCK SALTaD-2a;GOLDa;SILVERa;IRON OREaC-",
   "2a;CROCUS OF IRONa;REGULUS OF IRONa;COPPER OREa;IRON-COPPER OREa;SUBLIMATE OF COPPERa;CROCUS OF ",
   "COPPERaK-2a<OPPER ANTIMONIATEa;SALT OF COPPER ANTIMONIATEa<UBLIMATE OF SALT OF COPPERa;VERDIGRIS",
   "a;TIN OREa;LEAD OREa;ANTIMONY OREa;SUBLIMATE OF ANTIMONYa<ALT OF ANTIMONYa<UBLIMATE OF SALT OF A",
   "NTIMONYa;VINEGAR OF ANTIMONYa;REGULUS OF ANTIMONYaN-2aASaB-2aC3aC4a;ALKALIaA-2a;MARCASITEa;SAL-A",
   "MMONIACa;ARSENICa;REALGARaB-2a;AURIPIGMENTa;BISMUTH OREa;TARTARaA-2a;QUICK LIMEa;BORAXa@-2aA3a;A",
   "LUMa;OILa;SPIRITa;TINCTUREa;GUMa;WAXa;POWDERa;CALXa;TUTTYa;CAPUT MORTUUMa;SCEPTER OF JOVEa;CADUC",
   "EUSa;TRIDENTa;STARRED TRIDENTa;LODESTONEa;SOAPa;URINEa;HORSE DUNGa;ASHESa;POT ASHESa;BRICKa;POWD",
   "ERED BRICKa;AMALGAMa;STRATUM SUPER STRATUMaP-2a<UBLIMATIONa;PRECIPITATEa;DISTILLa>SOLVEaC-2a;PUR",
   "IFYa=TREFACTIONa;CRUCIBLEaC-2aD3aD4aD5a;ALEMBICa;BATH OF MARYaCVAPOURSa;RETORTa;HOURa;NIGHTa;DAY",
   "-NIGHTa;MONTHa;HALF DRAMa@OUNCEa!LOT OF FORTUNEa!OCCULTATIONa!LUNAR ECLIPSEe!HAUMEAa!MAKEMAKEa!G",
   "ONGGONGa!QUAOARa!ORCUSa!BLACK LEFT-POINTING ISOSCELES RIGHT TRIANGLEa)UP-POINTING ISOSCELES RIGH",
   "T TRIANGLEa)RIGHT-POINTING ISOSCELES RIGHT TRIANGLEa)DOWN-POINTING ISOSCELES RIGHT TRIANGLEa)SLI",
   "GHTLY SMALL CIRCLEa!MEDIUM BOLD WHITE CIRCLEa!BOLD WHITE CIRCLEa!HEAVY WHITE CIRCLEa!VERY HEAVY ",
   "WHITE CIRCLEa!EXTREMELY HEAVY WHITE CIRCLEa!WHITE CIRCLE CONTAINING BLACK SMALL CIRCLEa!ROUND TA",
   "RGETa!BLACK TINY SQUAREa)SLIGHTLY SMALL SQUAREa!LIGHT WHITE SQUAREa!MEDIUM WHITE SQUAREa!BOLD WH",
   "ITE SQUAREa!HEAVY WHITE SQUAREa!VERY HEAVY WHITE SQUAREa!EXTREMELY HEAVY WHITE SQUAREa!WHITE SQU",
   "ARE CONTAINING BLACK VERY SMALL SQUAREaCMEDIUM SQUAREa!SQUARE TARGETa!BLACK TINY DIAMONDa)VERY S",
   "MALL DIAMONDa)MEDIUM SMALL DIAMONDa!WHITE DIAMOND CONTAINING BLACK VERY SMALL DIAMONDaDMEDIUM DI",
   "AMONDa!DIAMOND TARGETa!BLACK TINY LOZENGEa)VERY SMALL LOZENGEa)MEDIUM SMALL LOZENGEa!WHITE LOZEN",
   "GE CONTAINING BLACK SMALL LOZENGEa!THIN GREEK CROSSa!LIGHT GREEK CROSSa!MEDIUM GREEK CROSSa!BOLD",
   " GREEK CROSSa!VERY BOLD GREEK CROSSa(HEAVY GREEK CROSSa!EXTREMELY HEAVY GREEK CROSSa!THIN SALTIR",
   "Ea!LIGHT SALTIREa!MEDIUM SALTIREa!BOLD SALTIREa!HEAVY SALTIREa!VERY HEAVY SALTIREa!EXTREMELY HEA",
   "VY SALTIREa!LIGHT FIVE SPOKED ASTERISKa!MEDIUM FIVE SPOKED ASTERISKa!BOLD FIVE SPOKED ASTERISKa!",
   "HEAVY FIVE SPOKED ASTERISKa!VERY HEAVY FIVE SPOKED ASTERISKa!EXTREMELY HEAVY FIVE SPOKED ASTERIS",
   "Ka!LIGHT SIX SPOKED ASTERISKa!MEDIUM SIX SPOKED ASTERISKa!BOLD SIX SPOKED ASTERISKa!HEAVY SIX SP",
   "OKED ASTERISKa!VERY HEAVY SIX SPOKED ASTERISKa!EXTREMELY HEAVY SIX SPOKED ASTERISKa!LIGHT EIGHT ",
   "SPOKED ASTERISKa!MEDIUM EIGHT SPOKED ASTERISKa!BOLD EIGHT SPOKED ASTERISKa!HEAVY EIGHT SPOKED AS",
   "TERISKa!VERY HEAVY EIGHT SPOKED ASTERISKa!LIGHT THREE POINTED BLACK STARa!MEDIUM THREE POINTED B",
   "LACK STARa!THREE POINTED BLACK STARa!MEDIUM THREE POINTED PINWHEEL STARa!LIGHT FOUR POINTED BLAC",
   "K STARa!MEDIUM FOUR POINTED BLACK STARa!FOUR POINTED BLACK STARa!MEDIUM FOUR POINTED PINWHEEL ST",
   "ARa!REVERSE LIGHT FOUR POINTED PINWHEEL STARa!LIGHT FIVE POINTED BLACK STARa!HEAVY FIVE POINTED ",
   "BLACK STARa!MEDIUM SIX POINTED BLACK STARa!HEAVY SIX POINTED BLACK STARa!SIX POINTED PINWHEEL ST",
   "ARa!MEDIUM EIGHT POINTED BLACK STARa!HEAVY EIGHT POINTED BLACK STARa!VERY HEAVY EIGHT POINTED BL",
   "ACK STARa!HEAVY EIGHT POINTED PINWHEEL STARa!LIGHT TWELVE POINTED BLACK STARa!HEAVY TWELVE POINT",
   "ED BLACK STARa:PINWHEEL STARa!CIRCLED TRIANGLEa!NEGATIVE CIRCLED TRIANGLEa!CIRCLED SQUAREa!NEGAT",
   "IVE CIRCLED SQUAREa#INE POINTED WHITE STARg!LARGE ORANGE CIRCLEa)YELLOW CIRCLEa)GREEN CIRCLEa)PU",
   "RPLE CIRCLEa)BROWN CIRCLEa)RED SQUAREa)BLUE SQUAREa)ORANGE SQUAREa)YELLOW SQUAREa)GREEN SQUAREa)",
   "PURPLE SQUAREa)BROWN SQUAREe!HEAVY EQUALS SIGNp!LEFTWARDS ARROW WITH SMALL TRIANGLE ARROWHEADa!U",
   "PWARDS ARROW WITH SMALL TRIANGLE ARROWHEADa!RIGHTWARDS ARROW WITH SMALL TRIANGLE ARROWHEADa!DOWN",
   "WARDS ARROW WITH SMALL TRIANGLE ARROWHEADa!LEFTWARDS ARROW WITH MEDIUM TRIANGLE ARROWHEADa!UPWAR",
   "DS ARROW WITH MEDIUM TRIANGLE ARROWHEADa!RIGHTWARDS ARROW WITH MEDIUM TRIANGLE ARROWHEADa!DOWNWA",
   "RDS ARROW WITH MEDIUM TRIANGLE ARROWHEADa!LEFTWARDS ARROW WITH LARGE TRIANGLE ARROWHEADa!UPWARDS",
   " ARROW WITH LARGE TRIANGLE ARROWHEADa!RIGHTWARDS ARROW WITH LARGE TRIANGLE ARROWHEADa!DOWNWARDS ",
   "ARROW WITH LARGE TRIANGLE ARROWHEADe!LEFTWARDS ARROW WITH SMALL EQUILATERAL ARROWHEADa!UPWARDS A",
   "RROW WITH SMALL EQUILATERAL ARROWHEADa!RIGHTWARDS ARROW WITH SMALL EQUILATERAL ARROWHEADa!DOWNWA",
   "RDS ARROW WITH SMALL EQUILATERAL ARROWHEADa!LEFTWARDS ARROW WITH EQUILATERAL ARROWHEADa!UPWARDS ",
   "ARROW WITH EQUILATERAL ARROWHEADa!RIGHTWARDS ARROW WITH EQUILATERAL ARROWHEADa!DOWNWARDS ARROW W",
   "ITH EQUILATERAL ARROWHEADa!HEAVY LEFTWARDS ARROW WITH EQUILATERAL ARROWHEADa)UPWARDS ARROW WITH ",
   "EQUILATERAL ARROWHEADa)RIGHTWARDS ARROW WITH EQUILATERAL ARROWHEADa)DOWNWARDS ARROW WITH EQUILAT",
   "ERAL ARROWHEADa)LEFTWARDS ARROW WITH LARGE EQUILATERAL ARROWHEADa)UPWARDS ARROW WITH LARGE EQUIL",
   "ATERAL ARROWHEADa)RIGHTWARDS ARROW WITH LARGE EQUILATERAL ARROWHEADa)DOWNWARDS ARROW WITH LARGE ",
   "EQUILATERAL ARROWHEADa!LEFTWARDS TRIANGLE-HEADED ARROW WITH NARROW SHAFTa!UPWARDS TRIANGLE-HEADE",
   "D ARROW WITH NARROW SHAFTa!RIGHTWARDS TRIANGLE-HEADED ARROW WITH NARROW SHAFTa!DOWNWARDS TRIANGL",
   "E-HEADED ARROW WITH NARROW SHAFTa!LEFTWARDS TRIANGLE-HEADED ARROW WITH MEDIUM SHAFTa!UPWARDS TRI",
   "ANGLE-HEADED ARROW WITH MEDIUM SHAFTa!RIGHTWARDS TRIANGLE-HEADED ARROW WITH MEDIUM SHAFTa!DOWNWA",
   "RDS TRIANGLE-HEADED ARROW WITH MEDIUM SHAFTa!LEFTWARDS TRIANGLE-HEADED ARROW WITH BOLD SHAFTa!UP",
   "WARDS TRIANGLE-HEADED ARROW WITH BOLD SHAFTa!RIGHTWARDS TRIANGLE-HEADED ARROW WITH BOLD SHAFTa!D",
   "OWNWARDS TRIANGLE-HEADED ARROW WITH BOLD SHAFTa!LEFTWARDS TRIANGLE-HEADED ARROW WITH HEAVY SHAFT",
   "a!UPWARDS TRIANGLE-HEADED ARROW WITH HEAVY SHAFTa!RIGHTWARDS TRIANGLE-HEADED ARROW WITH HEAVY SH",
   "AFTa!DOWNWARDS TRIANGLE-HEADED ARROW WITH HEAVY SHAFTa!LEFTWARDS TRIANGLE-HEADED ARROW WITH VERY",
   " HEAVY SHAFTa!UPWARDS TRIANGLE-HEADED ARROW WITH VERY HEAVY SHAFTa!RIGHTWARDS TRIANGLE-HEADED AR",
   "ROW WITH VERY HEAVY SHAFTa!DOWNWARDS TRIANGLE-HEADED ARROW WITH VERY HEAVY SHAFTa!LEFTWARDS FING",
   "ER-POST ARROWa!UPWARDS FINGER-POST ARROWa!RIGHTWARDS FINGER-POST ARROWa!DOWNWARDS FINGER-POST AR",
   "ROWa!LEFTWARDS SQUARED ARROWa!UPWARDS SQUARED ARROWa!RIGHTWARDS SQUARED ARROWa!DOWNWARDS SQUARED",
   " ARROWa!LEFTWARDS COMPRESSED ARROWa!UPWARDS COMPRESSED ARROWa!RIGHTWARDS COMPRESSED ARROWa!DOWNW",
   "ARDS COMPRESSED ARROWa!LEFTWARDS HEAVY COMPRESSED ARROWa!UPWARDS HEAVY COMPRESSED ARROWa!RIGHTWA",
   "RDS HEAVY COMPRESSED ARROWa!DOWNWARDS HEAVY COMPRESSED ARROWa!LEFTWARDS HEAVY ARROWa!UPWARDS HEA",
   "VY ARROWa!RIGHTWARDS HEAVY ARROWa!DOWNWARDS HEAVY ARROWi!LEFTWARDS SANS-SERIF ARROWa!UPWARDS SAN",
   "S-SERIF ARROWa!RIGHTWARDS SANS-SERIF ARROWa!DOWNWARDS SANS-SERIF ARROWa!NORTH WEST SANS-SERIF AR",
   "ROWa)EAST SANS-SERIF ARROWa!SOUTH EAST SANS-SERIF ARROWa)WEST SANS-SERIF ARROWa!LEFT RIGHT SANS-",
   "SERIF ARROWa!UP DOWN SANS-SERIF ARROWg!WIDE-HEADED LEFTWARDS LIGHT BARB ARROWa1UPWARDS LIGHT BAR",
   "B ARROWa1RIGHTWARDS LIGHT BARB ARROWa1DOWNWARDS LIGHT BARB ARROWa1NORTH WEST LIGHT BARB ARROWa7E",
   "AST LIGHT BARB ARROWa1SOUTH EAST LIGHT BARB ARROWa7WEST LIGHT BARB ARROWa1LEFTWARDS BARB ARROWa1",
   "UPWARDS BARB ARROWa1RIGHTWARDS BARB ARROWa1DOWNWARDS BARB ARROWa1NORTH WEST BARB ARROWa7EAST BAR",
   "B ARROWa1SOUTH EAST BARB ARROWa7WEST BARB ARROWa1LEFTWARDS MEDIUM BARB ARROWa1UPWARDS MEDIUM BAR",
   "B ARROWa1RIGHTWARDS MEDIUM BARB ARROWa1DOWNWARDS MEDIUM BARB ARROWa1NORTH WEST MEDIUM BARB ARROW",
   "a7EAST MEDIUM BARB ARROWa1SOUTH EAST MEDIUM BARB ARROWa7WEST MEDIUM BARB ARROWa1LEFTWARDS HEAVY ",
   "BARB ARROWa1UPWARDS HEAVY BARB ARROWa1RIGHTWARDS HEAVY BARB ARROWa1DOWNWARDS HEAVY BARB ARROWa1N",
   "ORTH WEST HEAVY BARB ARROWa7EAST HEAVY BARB ARROWa1SOUTH EAST HEAVY BARB ARROWa7WEST HEAVY BARB ",
   "ARROWa1LEFTWARDS VERY HEAVY BARB ARROWa1UPWARDS VERY HEAVY BARB ARROWa1RIGHTWARDS VERY HEAVY BAR",
   "B ARROWa1DOWNWARDS VERY HEAVY BARB ARROWa1NORTH WEST VERY HEAVY BARB ARROWa7EAST VERY HEAVY BARB",
   " ARROWa1SOUTH EAST VERY HEAVY BARB ARROWa7WEST VERY HEAVY BARB ARROWi!LEFTWARDS TRIANGLE ARROWHE",
   "ADa!UPWARDS TRIANGLE ARROWHEADa!RIGHTWARDS TRIANGLE ARROWHEADa!DOWNWARDS TRIANGLE ARROWHEADa!LEF",
   "TWARDS WHITE ARROW WITHIN TRIANGLE ARROWHEADa!UPWARDS WHITE ARROW WITHIN TRIANGLE ARROWHEADa!RIG",
   "HTWARDS WHITE ARROW WITHIN TRIANGLE ARROWHEADa!DOWNWARDS WHITE ARROW WITHIN TRIANGLE ARROWHEADa!",
   "LEFTWARDS ARROW WITH NOTCHED TAILa!UPWARDS ARROW WITH NOTCHED TAILa!RIGHTWARDS ARROW WITH NOTCHE",
   "D TAILa!DOWNWARDS ARROW WITH NOTCHED TAILa!HEAVY ARROW SHAFT WIDTH ONEa=TWO THIRDSa=ONE HALFaATH",
   "IRDa!LEFTWARDS BOTTOM-SHADED WHITE ARROWa!RIGHTWARDS BOTTOM SHADED WHITE ARROWa!LEFTWARDS TOP SH",
   "ADED WHITE ARROWa!RIGHTWARDS TOP SHADED WHITE ARROWa!LEFTWARDS LEFT-SHADED WHITE ARROWa!RIGHTWAR",
   "DS RIGHT-SHADED WHITE ARROWa!LEFTWARDS RIGHT-SHADED WHITE ARROWa!RIGHTWARDS LEFT-SHADED WHITE AR",
   "ROWa!LEFTWARDS BACK-TILTED SHADOWED WHITE ARROWa!RIGHTWARDS BACK-TILTED SHADOWED WHITE ARROWa!LE",
   "FTWARDS FRONT-TILTED SHADOWED WHITE ARROWa!RIGHTWARDS FRONT-TILTED SHADOWED WHITE ARROWa!WHITE A",
   "RROW SHAFT WIDTH ONEa=TWO THIRDSc!ARROW POINTING UPWARDS THEN NORTH WESTa4RIGHTWARDS THEN CURVIN",
   "G SOUTH WEST!79!!CIRCLED CROSS FORMEE WITH FOUR DOTSa?TWO DOTSa8Ea!LEFT HALF CIRCLE WITH FOUR DO",
   "TSa;THREE DOTSa<WO DOTSa;DOTa4Ea!DOWNWARD FACING HOOKa5NOTCHED HOOKa5HOOK WITH DOTa5NOTCHED HOOK",
   " WITH DOTa!PINCHED FINGERSa!WHITE HEARTa!BROWN HEARTa!PINCHING HANDa!ZIPPER-MOUTH FACEa!MONEY-MO",
   "UTH FACEa!FACE WITH THERMOMETERa!NERD FACEa!THINKING FACEa!FACE WITH HEAD-BANDAGEa!ROBOT FACEa!H",
   "UGGING FACEa!SIGN OF THE HORNSa!CALL ME HANDa!RAISED BACK OF HANDa!LEFT-FACING FISTa!RIGHT-FACIN",
   "G FISTa!HANDSHAKEa& WITH INDEX AND MIDDLE FINGERS CROSSEDa!I LOVE YOU HAND SIGNa!FACE WITH COWBO",
   "Y HATa!CLOWN FACEa!NAUSEATED FACEa!ROLLING ON THE FLOOR LAUGHINGa!DROOLING FACEa!LYING FACEa!FAC",
   "E PALMa!SNEEZING FACEa!FACE WITH ONE EYEBROW RAISEDa!GRINNING FACE WITH STAR EYESa8ONE LARGE AND",
   " ONE SMALL EYEa!FACE WITH FINGER COVERING CLOSED LIPSa!SERIOUS FACE WITH SYMBOLS COVERING MOUTHa",
   "#MILING FACE WITH SMILING EYES AND HAND COVERING MOUTHa!FACE WITH OPEN MOUTH VOMITINGa!SHOCKED F",
   "ACE WITH EXPLODING HEADa!PREGNANT WOMANa!BREAST-FEEDINGa!PALMS UP TOGETHERa!SELFIEa!PRINCEa!MAN ",
   "IN TUXEDOa#OTHER CHRISTMASa!SHRUGa!PERSON DOING CARTWHEELa!JUGGLINGa!FENCERa!MODERN PENTATHLONa!",
   "WRESTLERSa#ATER POLOa!HANDBALLa!DIVING MASKa!WILTED FLOWERa!DRUM WITH DRUMSTICKSa!CLINKING GLASS",
   "ESa!TUMBLER GLASSa!SPOONa!GOAL NETa!RIFLEa!FIRST PLACE MEDALa!SECOND PLACE MEDALa!THIRD PLACE ME",
   "DALa!BOXING GLOVEa!MARTIAL ARTS UNIFORMa!CURLING STONEa!LACROSSE STICK AND BALLa!SOFTBALLa!FLYIN",
   "G DISCa!CROISSANTa!AVOCADOa!CUCUMBERa!BACONa!POTATOa!CARROTa!BAGUETTE BREADa!GREEN SALADa!SHALLO",
   "W PAN OF FOODa#TUFFED FLATBREADa!EGGa!GLASS OF MILKa!PEANUTSa!KIWIFRUITa!PANCAKESa!DUMPLINGa!FOR",
   "TUNE COOKIEa!TAKEOUT BOXa!CHOPSTICKSa!BOWL WITH SPOONa!CUP WITH STRAWa#OCONUTa!BROCCOLIa!PIEa#RE",
   "TZELa!CUT OF MEATa!SANDWICHa!CANNED FOODa!LEAFY GREENa!MANGOa#OON CAKEa!BAGELa!SMILING FACE WITH",
   " SMILING EYES AND THREE HEARTSa!YAWNING FACEa!SMILING FACE WITH TEARa!FACE WITH PARTY HORN AND P",
   "ARTY HATa.UNEVEN EYES AND WAVY MOUTHa!OVERHEATED FACEa!FREEZING FACEa!NINJAa!DISGUISED FACEa!FAC",
   "E HOLDING BACK TEARSa(WITH PLEADING EYESa!SARIa!LAB COATa!GOGGLESa!HIKING BOOTa!FLAT SHOEa!CRABa",
   "!LION FACEa!SCORPIONa!TURKEYa!UNICORN FACEa!EAGLEa!DUCKa!BATa!SHARKa!OWLa!FOX FACEa!BUTTERFLYa!D",
   "EERa!GORILLAa!LIZARDa!RHINOCEROSa!SHRIMPa#QUIDa!GIRAFFE FACEa!ZEBRA FACEa!HEDGEHOGa!SAUROPODa!T-",
   "REXa!CRICKETa!KANGAROOa!LLAMAa!PEACOCKa!HIPPOPOTAMUSa!PARROTa!RACCOONa!LOBSTERa!MOSQUITOa#ICROBE",
   "a!BADGERa!SWANa!MAMMOTHa!DODOa!SLOTHa!OTTERa#RANGUTANa!SKUNKa!FLAMINGOa!OYSTERa!BEAVERa#ISONa!SE",
   "ALa!GUIDE DOGa!PROBING CANEa!EMOJI COMPONENT RED HAIRa5CURLY HAIRa5BALDa5WHITE HAIRa!BONEa!LEGa!",
   "FOOTa!TOOTHa!SUPERHEROa(VILLAINa#AFETY VESTa!EAR WITH HEARING AIDa!MOTORIZED WHEELCHAIRa#ANUAL W",
   "HEELCHAIRa#ECHANICAL ARMa0LEGa!CHEESE WEDGEa#UPCAKEa!SALT SHAKERa!BEVERAGE BOXa!GARLICa!ONIONa!F",
   "ALAFELa!WAFFLEa!BUTTERa!MATE DRINKa!ICE CUBEa!BUBBLE TEAa!TROLLa!STANDING PERSONa!KNEELING PERSO",
   "Na!DEAF PERSONa!FACE WITH MONOCLEa!ADULTa!CHILDa!OLDER ADULTa!BEARDED PERSONa!PERSON WITH HEADSC",
   "ARFa*IN STEAMY ROOMa*CLIMBINGa*IN LOTUS POSITIONa!MAGEa!FAIRYa!VAMPIREa!MERPERSONa!ELFa!GENIEa!Z",
   "OMBIEa!BRAINa!ORANGE HEARTa!BILLED CAPa!SCARFa!GLOVESa!COATa!SOCKSa!RED GIFT ENVELOPEa!FIRECRACK",
   "ERa!JIGSAW PUZZLE PIECEa!TEST TUBEa!PETRI DISHa!DNA DOUBLE HELIXa!COMPASSa!ABACUSa!FIRE EXTINGUI",
   "SHERa!TOOLBOXa!BRICKa!MAGNETa!LUGGAGEa#OTION BOTTLEa!SPOOL OF THREADa!BALL OF YARNa!SAFETY PINa!",
   "TEDDY BEARa!BROOMa#ASKETa!ROLL OF PAPERa!BAR OF SOAPa!SPONGEa!RECEIPTa!NAZAR AMULETa#EUTRAL CHES",
   "S KINGa3QUEENa3ROOKa3BISHOPa3KNIGHTa3PAWNa!WHITE CHESS KNIGHT ROTATED FORTY-FIVE DEGREESa!BLACK ",
   "CHESS KNIGHT ROTATED FORTY-FIVE DEGREESa!NEUTRAL CHESS KNIGHT ROTATED FORTY-FIVE DEGREESa!WHITE ",
   "CHESS KING ROTATED NINETY DEGREESa1QUEEN ROTATED NINETY DEGREESa1ROOK ROTATED NINETY DEGREESa1BI",
   "SHOP ROTATED NINETY DEGREESa1KNIGHT ROTATED NINETY DEGREESa1PAWN ROTATED NINETY DEGREESa!BLACK C",
   "HESS KING ROTATED NINETY DEGREESa1QUEEN ROTATED NINETY DEGREESa1ROOK ROTATED NINETY DEGREESa1BIS",
   "HOP ROTATED NINETY DEGREESa1KNIGHT ROTATED NINETY DEGREESa1PAWN ROTATED NINETY DEGREESa!NEUTRAL ",
   "CHESS KING ROTATED NINETY DEGREESa3QUEEN ROTATED NINETY DEGREESa3ROOK ROTATED NINETY DEGREESa3BI",
   "SHOP ROTATED NINETY DEGREESa3KNIGHT ROTATED NINETY DEGREESa3PAWN ROTATED NINETY DEGREESa!WHITE C",
   "HESS KNIGHT ROTATED ONE HUNDRED THIRTY-FIVE DEGREESa!BLACK CHESS KNIGHT ROTATED ONE HUNDRED THIR",
   "TY-FIVE DEGREESa!NEUTRAL CHESS KNIGHT ROTATED ONE HUNDRED THIRTY-FIVE DEGREESa!WHITE CHESS TURNE",
   "D KINGa8QUEENa8ROOKa8BISHOPa8KNIGHTa8PAWNa!BLACK CHESS TURNED KINGa8QUEENa8ROOKa8BISHOPa8KNIGHTa",
   "8PAWNa!NEUTRAL CHESS TURNED KINGa:QUEENa:ROOKa:BISHOPa:KNIGHTa:PAWNa!WHITE CHESS KNIGHT ROTATED ",
   "TWO HUNDRED TWENTY-FIVE DEGREESa!BLACK CHESS KNIGHT ROTATED TWO HUNDRED TWENTY-FIVE DEGREESa!NEU",
   "TRAL CHESS KNIGHT ROTATED TWO HUNDRED TWENTY-FIVE DEGREESa!WHITE CHESS KING ROTATED TWO HUNDRED ",
   "SEVENTY DEGREESa1QUEEN ROTATED TWO HUNDRED SEVENTY DEGREESa1ROOK ROTATED TWO HUNDRED SEVENTY DEG",
   "REESa1BISHOP ROTATED TWO HUNDRED SEVENTY DEGREESa1KNIGHT ROTATED TWO HUNDRED SEVENTY DEGREESa1PA",
   "WN ROTATED TWO HUNDRED SEVENTY DEGREESa!BLACK CHESS KING ROTATED TWO HUNDRED SEVENTY DEGREESa1QU",
   "EEN ROTATED TWO HUNDRED SEVENTY DEGREESa1ROOK ROTATED TWO HUNDRED SEVENTY DEGREESa1BISHOP ROTATE",
   "D TWO HUNDRED SEVENTY DEGREESa1KNIGHT ROTATED TWO HUNDRED SEVENTY DEGREESa1PAWN ROTATED TWO HUND",
   "RED SEVENTY DEGREESa!NEUTRAL CHESS KING ROTATED TWO HUNDRED SEVENTY DEGREESa3QUEEN ROTATED TWO H",
   "UNDRED SEVENTY DEGREESa3ROOK ROTATED TWO HUNDRED SEVENTY DEGREESa3BISHOP ROTATED TWO HUNDRED SEV",
   "ENTY DEGREESa3KNIGHT ROTATED TWO HUNDRED SEVENTY DEGREESa3PAWN ROTATED TWO HUNDRED SEVENTY DEGRE",
   "ESa!WHITE CHESS KNIGHT ROTATED THREE HUNDRED FIFTEEN DEGREESa!BLACK CHESS KNIGHT ROTATED THREE H",
   "UNDRED FIFTEEN DEGREESa!NEUTRAL CHESS KNIGHT ROTATED THREE HUNDRED FIFTEEN DEGREESa!WHITE CHESS ",
   "EQUIHOPPERa!BLACK CHESS EQUIHOPPERa!NEUTRAL CHESS EQUIHOPPERa!WHITE CHESS EQUIHOPPER ROTATED NIN",
   "ETY DEGREESa!BLACK CHESS EQUIHOPPER ROTATED NINETY DEGREESa!NEUTRAL CHESS EQUIHOPPER ROTATED NIN",
   "ETY DEGREESa!WHITE CHESS KNIGHT-QUEENa8ROOKa8BISHOPa!BLACK CHESS KNIGHT-QUEENa8ROOKa8BISHOPm!XIA",
   "NGQI RED GENERALa1MANDARINa1ELEPHANTa1HORSEa1CHARIOTa2ANNONa1SOLDIERa+BLACK GENERALa3MANDARINa3E",
   "LEPHANTa3HORSEa3CHARIOTa4ANNONa3SOLDIERc!BALLET SHOESa!ONE-PIECE SWIMSUITa!BRIEFSa!SHORTSa!THONG",
   " SANDALa!LIGHT BLUE HEARTa!GREY HEARTa!PINK HEARTa!DROP OF BLOODa!ADHESIVE BANDAGEa!STETHOSCOPEa",
   "!X-RAYa!CRUTCHd!YO-YOa!KITEa!PARACHUTEa!BOOMERANGa!MAGIC WANDa!PINATAa!NESTING DOLLSa!MARACASa!F",
   "LUTEh!RINGED PLANETa!CHAIRa!RAZORa!AXEa!DIYA LAMPa!BANJOa!MILITARY HELMETa!ACCORDIONa!LONG DRUMa",
   "!COINa#ARPENTRY SAWa!SCREWDRIVERa!LADDERa!HOOKa!MIRRORa!WINDOWa!PLUNGERa!SEWING NEEDLEa!KNOTa!BU",
   "CKETa!MOUSE TRAPa!TOOTHBRUSHa!HEADSTONEa!PLACARDa!ROCKa!MIRROR BALLa!IDENTIFICATION CARDa!LOW BA",
   "TTERYa!HAMSAa!FOLDING HAND FANa!HAIR PICKa!KHANDAa!FLYa!WORMa!BEETLEa!COCKROACHa!POTTED PLANTa!W",
   "OODa!FEATHERa!LOTUSa!CORALa!EMPTY NESTa!NEST WITH EGGSa!HYACINTHa!JELLYFISHa!WINGb!GOOSEa!ANATOM",
   "ICAL HEARTa!LUNGSa!PEOPLE HUGGINGa#REGNANT MANa,PERSONa#ERSON WITH CROWNi!MOOSEa!DONKEYa!BLUEBER",
   "RIESa#ELL PEPPERa!OLIVEa!FLATBREADa!TAMALEa!FONDUEa!TEAPOTa!POURING LIQUIDa!BEANSa!JARa!GINGER R",
   "OOTa!PEA PODe!MELTING FACEa!SALUTING FACEa!FACE WITH OPEN EYES AND HAND OVER MOUTHa.PEEKING EYEa",
   ".DIAGONAL MOUTHa!DOTTED LINE FACEa!BITING LIPa#UBBLESa!SHAKING FACEh!HAND WITH INDEX FINGER AND ",
   "THUMB CROSSEDa!RIGHTWARDS HANDa!LEFTWARDS HANDa!PALM DOWN HANDa(UP HANDa!INDEX POINTING AT THE V",
   "IEWERa!HEART HANDSa!LEFTWARDS PUSHING HANDa!RIGHTWARDS PUSHING HANDh!BLOCK SEXTANT-1a32a312a33a3",
   "13a323a3123a34a314a324a3124a334a3134a3234a31234a35a315a325a3125a335a3235a31235a345a3145a3245a312",
   "45a3345a31345a32345a312345a36a316a326a3126a336a3136a3236a31236a346a3146a4246a3346a31346a32346a31",
   "2346a356a3156a3256a31256a3356a31356a32356a312356a3456a31456a32456a312456a33456a313456a323456a!LO",
   "WER LEFT BLOCK DIAGONAL LOWER MIDDLE LEFT TO LOWER CENTREaZRIGHTa?UPPER MIDDLE LEFT TO LOWER CEN",
   "TREaZRIGHTaELEFT TO LOWER CENTREa)RIGHT BLOCK DIAGONAL UPPER MIDDLE LEFT TO UPPER CENTREa[RIGHTa",
   "@LOWER MIDDLE LEFT TO UPPER CENTREa[RIGHTaFLEFT TO UPPER CENTREaFMIDDLE LEFT TO UPPER MIDDLE RIG",
   "HTaFCENTRE TO LOWER MIDDLE RIGHTaFLEFT TO LOWER MIDDLE RIGHTaFCENTRE TO UPPER MIDDLE RIGHTaFLEFT",
   " TO UPPER MIDDLE RIGHTaFCENTRE TO UPPER RIGHTa)LEFT BLOCK DIAGONAL UPPER CENTRE TO UPPER MIDDLE ",
   "RIGHTaELEFT TO UPPER MIDDLE RIGHTaECENTRE TO LOWER MIDDLE RIGHTaELEFT TO LOWER MIDDLE RIGHTaECEN",
   "TRE TO LOWER RIGHTaEMIDDLE LEFT TO LOWER MIDDLE RIGHTa!UPPER RIGHT BLOCK DIAGONAL LOWER MIDDLE L",
   "EFT TO LOWER CENTREa[RIGHTa@UPPER MIDDLE LEFT TO LOWER CENTREa[RIGHTaFLEFT TO LOWER CENTREa)LEFT",
   " BLOCK DIAGONAL UPPER MIDDLE LEFT TO UPPER CENTREaZRIGHTa?LOWER MIDDLE LEFT TO UPPER CENTREaZRIG",
   "HTaELEFT TO UPPER CENTREaEMIDDLE LEFT TO UPPER MIDDLE RIGHTaECENTRE TO LOWER MIDDLE RIGHTaELEFT ",
   "TO LOWER MIDDLE RIGHTaECENTRE TO UPPER MIDDLE RIGHTaELEFT TO UPPER MIDDLE RIGHTaECENTRE TO UPPER",
   " RIGHTa)RIGHT BLOCK DIAGONAL UPPER CENTRE TO UPPER MIDDLE RIGHTaFLEFT TO UPPER MIDDLE RIGHTaFCEN",
   "TRE TO LOWER MIDDLE RIGHTaFLEFT TO LOWER MIDDLE RIGHTaFCENTRE TO LOWER RIGHTaFMIDDLE LEFT TO LOW",
   "ER MIDDLE RIGHTa)AND RIGHT AND LOWER TRIANGULAR THREE QUARTERS BLOCKa!LEFT AND LOWER AND RIGHT T",
   "RIANGULAR THREE QUARTERS BLOCKa!UPPER AND LEFT AND LOWER TRIANGULAR THREE QUARTERS BLOCKa!LEFT A",
   "ND UPPER AND RIGHT TRIANGULAR THREE QUARTERS BLOCKa(TRIANGULAR ONE QUARTER BLOCKa!UPPER TRIANGUL",
   "AR ONE QUARTER BLOCKa!RIGHT TRIANGULAR ONE QUARTER BLOCKa!LOWER TRIANGULAR ONE QUARTER BLOCKa!VE",
   "RTICAL ONE EIGHTH BLOCK-2a?3a?4a?5a?6a?7a!HORIZONTAL ONE EIGHTH BLOCK-2aA3aA4aA5aA6aA7a!LEFT AND",
   " LOWER ONE EIGHTH BLOCKa,UPPER ONE EIGHTH BLOCKa!RIGHT AND UPPER ONE EIGHTH BLOCKa.LOWER ONE EIG",
   "HTH BLOCKa!UPPER AND LOWER ONE EIGHTH BLOCKa!HORIZONTAL ONE EIGHTH BLOCK-1358a!UPPER ONE QUARTER",
   " BLOCKa)THREE EIGHTHS BLOCKa)FIVE EIGHTHS BLOCKa)THREE QUARTERS BLOCKa)SEVEN EIGHTHS BLOCKa!RIGH",
   "T ONE QUARTER BLOCKa)THREE EIGHTHS BLOCKa)FIVE EIGHTHS BLOCKa)THREE QUARTERS BLOCKa)SEVEN EIGHTH",
   "S BLOCKa!LEFT HALF MEDIUM SHADEa!RIGHT HALF MEDIUM SHADEa!UPPER HALF MEDIUM SHADEa!LOWER HALF ME",
   "DIUM SHADEa!INVERSE MEDIUM SHADEa!UPPER HALF BLOCK AND LOWER HALF INVERSE MEDIUM SHADEa0INVERSE ",
   "MEDIUM SHADE AND LOWER HALF BLOCKb!LEFT HALF INVERSE MEDIUM SHADE AND RIGHT HALF BLOCKa!CHECKER ",
   "BOARD FILLa!INVERSE CHECKER BOARD FILLa!HEAVY HORIZONTAL FILLa!UPPER LEFT TO LOWER RIGHT FILLa)R",
   "IGHT TO LOWER LEFT FILLa)AND LOWER TRIANGULAR HALF BLOCKa!LEFT AND RIGHT TRIANGULAR HALF BLOCKa!",
   "UPPER LEFT TRIANGULAR MEDIUM SHADEa)RIGHT TRIANGULAR MEDIUM SHADEa!LOWER RIGHT TRIANGULAR MEDIUM",
   " SHADEa)LEFT TRIANGULAR MEDIUM SHADEa!BOX DRAWINGS LIGHT DIAGONAL UPPER CENTRE TO MIDDLE LEFTaXR",
   "IGHTaAMIDDLE LEFT TO LOWER CENTREaHRIGHT TO LOWER CENTREaAUPPER CENTRE TO MIDDLE LEFT TO LOWER C",
   "ENTREaXRIGHT TO LOWER CENTREaAMIDDLE LEFT TO LOWER CENTRE TO MIDDLE RIGHTaPUPPER CENTRE TO MIDDL",
   "E RIGHTaAUPPER CENTRE TO MIDDLE LEFT AND MIDDLE RIGHT TO LOWER CENTREaXRIGHT AND MIDDLE LEFT TO ",
   "LOWER CENTREa_TO LOWER CENTRE TO MIDDLE LEFTaXLEFT TO LOWER CENTRE TO MIDDLE RIGHTaAMIDDLE LEFT ",
   "TO UPPER CENTRE TO MIDDLE RIGHT TO LOWER CENTREaHRIGHT TO UPPER CENTRE TO MIDDLE LEFT TO LOWER C",
   "ENTREaADIAMONDa8HORIZONTAL WITH VERTICAL STROKEa!ARROWHEAD-SHAPED POINTERa!INVERSE CHECK MARKa!L",
   "EFT HALF RUNNING MANa!RIGHT HALF RUNNING MANa!INVERSE DOWNWARDS ARROW WITH TIP LEFTWARDSa!LEFTWA",
   "RDS ARROW AND UPPER AND LOWER ONE EIGHTH BLOCKa!RIGHTWARDS ARROW AND UPPER AND LOWER ONE EIGHTH ",
   "BLOCKa!DOWNWARDS ARROW AND RIGHT ONE EIGHTH BLOCKa!UPWARDS ARROW AND RIGHT ONE EIGHTH BLOCKa!LEF",
   "T HALF FOLDERa!RIGHT HALF FOLDERa!VOIDED GREEK CROSSa!RIGHT OPEN SQUARED DOTa!NEGATIVE DIAGONAL ",
   "CROSSa7MIDDLE RIGHT TO LOWER CENTREa7DIAMONDa!WHITE HEAVY SALTIRE WITH ROUNDED CORNERSa!LEFT THI",
   "RD WHITE RIGHT POINTING INDEXa!MIDDLE THIRD WHITE RIGHT POINTING INDEXa!RIGHT THIRD WHITE RIGHT ",
   "POINTING INDEXa!NEGATIVE SQUARED QUESTION MARKa!STICK FIGUREa1 WITH ARMS RAISEDa2LEANING LEFTa:R",
   "IGHTa2WITH DRESSa!WHITE UP-POINTING CHEVRON!38!!SEGMENTED DIGIT ZEROa5ONEa5TWOa6HREEa5FOURa6IVEa",
   "5SIXa6EVENa5EIGHTa5NINE!787464!!LANGUAGE TAG!31!!TAG SPACEa&EXCLAMATION MARKa&QUOTATION MARKa&NU",
   "MBER SIGNa&DOLLAR SIGNa&PERCENT SIGNa&AMPERSANDa(POSTROPHEa&LEFT PARENTHESISa&RIGHT PARENTHESISa",
   "&ASTERISKa&PLUS SIGNa&COMMAa&HYPHEN-MINUSa&FULL STOPa&SOLIDUSa&DIGIT ZEROa.ONEa.TWOa0HREEa.FOURa",
   "0IVEa.SIXa0EVENa.EIGHTa.NINEa&COLONa&SEMICOLONa&LESS-THAN SIGNa&EQUALS SIGNa&GREATER-THAN SIGNa&",
   "QUESTION MARKa&COMMERCIAL ATa&LATIN CAPITAL LETTER Aa>Ba>Ca>Da>Ea>Fa>Ga>Ha>Ia>Ja>Ka>La>Ma>Na>Oa>",
   "Pa>Qa>Ra>Sa>Ta>Ua>Va>Wa>Xa>Ya>Za(EFT SQUARE BRACKETa&REVERSE SOLIDUSa(IGHT SQUARE BRACKETa&CIRCU",
   "MFLEX ACCENTa&LOW LINEa&GRAVE ACCENTa&LATIN SMALL LETTER Aa<Ba<Ca<Da<Ea<Fa<Ga<Ha<Ia<Ja<Ka<La<Ma<",
   "Na<Oa<Pa<Qa<Ra<Sa<Ta<Ua<Va<Wa<Xa<Ya<Za(EFT CURLY BRACKETa&VERTICAL LINEa&RIGHT CURLY BRACKETa&TI",
   "LDEa!CANCEL TAG!129!!VARIATION SELECTOR-17a98a99a820a91a92a93a94a95a96a97a98a99a830a91a92a93a94a",
   "95a96a97a98a99a840a91a92a93a94a95a96a97a98a99a850a91a92a93a94a95a96a97a98a99a860a91a92a93a94a95a",
   "96a97a98a99a870a91a92a93a94a95a96a97a98a99a880a91a92a93a94a95a96a97a98a99a890a91a92a93a94a95a96a",
   "97a98a99a8100a:1a:2a:3a:4a:5a:6a:7a:8a:9a910a:1a:2a:3a:4a:5a:6a:7a:8a:9a920a:1a:2a:3a:4a:5a:6a:7",
   "a:8a:9a930a:1a:2a:3a:4a:5a:6a:7a:8a:9a940a:1a:2a:3a:4a:5a:6a:7a:8a:9a950a:1a:2a:3a:4a:5a:6a:7a:8",
   "a:9a960a:1a:2a:3a:4a:5a:6a:7a:8a:9a970a:1a:2a:3a:4a:5a:6a:7a:8a:9a980a:1a:2a:3a:4a:5a:6a:7a:8a:9",
   "a990a:1a:2a:3a:4a:5a:6a:7a:8a:9a8200a:1a:2a:3a:4a:5a:6a:7a:8a:9a910a:1a:2a:3a:4a:5a:6a:7a:8a:9a9",
   "20a:1a:2a:3a:4a:5a:6a:7a:8a:9a930a:1a:2a:3a:4a:5a:6a:7a:8a:9a940a:1a:2a:3a:4a:5a:6a:7a:8a:9a950a",
   ":1a:2a:3a:4a:5a:6"]

end NativeBindings.Text
