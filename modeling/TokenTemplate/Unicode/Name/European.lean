import TokenTemplate.Unicode.Name.Run

/-!
# Names of European scripts

The names that version 14 of the standard gives to characters:
the scripts of Europe, with the letters of phonetic alphabets.
-/

namespace TokenTemplate.Unicode

/-- Runs of characters with their names. -/
def europeanNames : List NameRun :=
  [(0x20, [
     "aSPACEaEXCLAMATION MARKaQUOTATION MARKaNUMBER SIGNaDOLLAR SIGNaPERCENT SIGNaAMPERSAND",
     "bPOSTROPHEaLEFT PARENTHESISaRIGHT PARENTHESISaASTERISKaPLUS SIGNaCOMMAaHYPHEN-MINUS",
     "aFULL STOPaSOLIDUSaDIGIT ZEROgONEgTWOhHREEgFOURhIVEgSIXhEVENgEIGHTgNINEaCOLONaSEMICOLON",
     "aLESS-THAN SIGNaEQUALS SIGNaGREATER-THAN SIGNaQUESTION MARKaCOMMERCIAL AT",
     "aLATIN CAPITAL LETTER AvBvCvDvEvFvGvHvIvJvKvLvMvNvOvPvQvRvSvTvUvVvWvXvYvZ",
     "bEFT SQUARE BRACKETaREVERSE SOLIDUSbIGHT SQUARE BRACKETaCIRCUMFLEX ACCENTaLOW LINE",
     "aGRAVE ACCENTaLATIN SMALL LETTER AtBtCtDtEtFtGtHtItJtKtLtMtNtOtPtQtRtStTtUtVtWtXtYtZ",
     "bEFT CURLY BRACKETaVERTICAL LINEaRIGHT CURLY BRACKETaTILDE"]),
   (0xa0, [
     "aNO-BREAK SPACEaINVERTED EXCLAMATION MARKaCENT SIGNaPOUND SIGNaCURRENCY SIGNaYEN SIGN",
     "aBROKEN BARaSECTION SIGNaDIAERESISaCOPYRIGHT SIGNaFEMININE ORDINAL INDICATOR",
     "aLEFT-POINTING DOUBLE ANGLE QUOTATION MARKaNOT SIGNaSOFT HYPHENaREGISTERED SIGNaMACRON",
     "aDEGREE SIGNaPLUS-MINUS SIGNaSUPERSCRIPT TWOnHREEaACUTE ACCENTaMICRO SIGNaPILCROW SIGN",
     "aMIDDLE DOTaCEDILLAaSUPERSCRIPT ONEaMASCULINE ORDINAL INDICATOR",
     "aRIGHT-POINTING DOUBLE ANGLE QUOTATION MARKaVULGAR FRACTION ONE QUARTERuHALF",
     "qTHREE QUARTERSaINVERTED QUESTION MARKaLATIN CAPITAL LETTER A WITH GRAVE%ACUTE%CIRCUMFLEX",
     "%TILDE%DIAERESIS%RING ABOVEwEvC WITH CEDILLAvE WITH GRAVE%ACUTE%CIRCUMFLEX%DIAERESIS",
     "vI WITH GRAVE%ACUTE%CIRCUMFLEX%DIAERESISvETHvN WITH TILDEvO WITH GRAVE%ACUTE%CIRCUMFLEX",
     "%TILDE%DIAERESISaMULTIPLICATION SIGNaLATIN CAPITAL LETTER O WITH STROKEvU WITH GRAVE%ACUTE",
     "%CIRCUMFLEX%DIAERESISvY WITH ACUTEvTHORNgSMALL LETTER SHARP StA WITH GRAVE!ACUTE",
     "!CIRCUMFLEX!TILDE!DIAERESIS!RING ABOVEuEtC WITH CEDILLAtE WITH GRAVE!ACUTE!CIRCUMFLEX",
     "!DIAERESIStI WITH GRAVE!ACUTE!CIRCUMFLEX!DIAERESIStETHtN WITH TILDEtO WITH GRAVE!ACUTE",
     "!CIRCUMFLEX!TILDE!DIAERESISaDIVISION SIGNaLATIN SMALL LETTER O WITH STROKEtU WITH GRAVE",
     "!ACUTE!CIRCUMFLEX!DIAERESIStY WITH ACUTEtTHORNtY WITH DIAERESIS",
     "gCAPITAL LETTER A WITH MACRONgSMALL LETTER A WITH MACRONgCAPITAL LETTER A WITH BREVE",
     "gSMALL LETTER A WITH BREVEgCAPITAL LETTER A WITH OGONEKgSMALL LETTER A WITH OGONEK",
     "gCAPITAL LETTER C WITH ACUTEgSMALL LETTER C WITH ACUTEgCAPITAL LETTER C WITH CIRCUMFLEX",
     "gSMALL LETTER C WITH CIRCUMFLEXgCAPITAL LETTER C WITH DOT ABOVE",
     "gSMALL LETTER C WITH DOT ABOVEgCAPITAL LETTER C WITH CARONgSMALL LETTER C WITH CARON",
     "gCAPITAL LETTER D WITH CARONgSMALL LETTER D WITH CARONgCAPITAL LETTER D WITH STROKE",
     "gSMALL LETTER D WITH STROKEgCAPITAL LETTER E WITH MACRONgSMALL LETTER E WITH MACRON",
     "gCAPITAL LETTER E WITH BREVEgSMALL LETTER E WITH BREVEgCAPITAL LETTER E WITH DOT ABOVE",
     "gSMALL LETTER E WITH DOT ABOVEgCAPITAL LETTER E WITH OGONEKgSMALL LETTER E WITH OGONEK",
     "gCAPITAL LETTER E WITH CARONgSMALL LETTER E WITH CARONgCAPITAL LETTER G WITH CIRCUMFLEX",
     "gSMALL LETTER G WITH CIRCUMFLEXgCAPITAL LETTER G WITH BREVEgSMALL LETTER G WITH BREVE",
     "gCAPITAL LETTER G WITH DOT ABOVEgSMALL LETTER G WITH DOT ABOVE",
     "gCAPITAL LETTER G WITH CEDILLAgSMALL LETTER G WITH CEDILLA",
     "gCAPITAL LETTER H WITH CIRCUMFLEXgSMALL LETTER H WITH CIRCUMFLEX",
     "gCAPITAL LETTER H WITH STROKEgSMALL LETTER H WITH STROKEgCAPITAL LETTER I WITH TILDE",
     "gSMALL LETTER I WITH TILDEgCAPITAL LETTER I WITH MACRONgSMALL LETTER I WITH MACRON",
     "gCAPITAL LETTER I WITH BREVEgSMALL LETTER I WITH BREVEgCAPITAL LETTER I WITH OGONEK",
     "gSMALL LETTER I WITH OGONEKgCAPITAL LETTER I WITH DOT ABOVEgSMALL LETTER DOTLESS I",
     "gCAPITAL LIGATURE IJgSMALL LIGATURE IJgCAPITAL LETTER J WITH CIRCUMFLEX",
     "gSMALL LETTER J WITH CIRCUMFLEXgCAPITAL LETTER K WITH CEDILLAgSMALL LETTER K WITH CEDILLA",
     "uRAgCAPITAL LETTER L WITH ACUTEgSMALL LETTER L WITH ACUTEgCAPITAL LETTER L WITH CEDILLA",
     "gSMALL LETTER L WITH CEDILLAgCAPITAL LETTER L WITH CARONgSMALL LETTER L WITH CARON",
     "gCAPITAL LETTER L WITH MIDDLE DOTgSMALL LETTER L WITH MIDDLE DOT",
     "gCAPITAL LETTER L WITH STROKEgSMALL LETTER L WITH STROKEgCAPITAL LETTER N WITH ACUTE",
     "gSMALL LETTER N WITH ACUTEgCAPITAL LETTER N WITH CEDILLAgSMALL LETTER N WITH CEDILLA",
     "gCAPITAL LETTER N WITH CARONgSMALL LETTER N WITH CARONvPRECEDED BY APOSTROPHE",
     "gCAPITAL LETTER ENGgSMALL LETTER ENGgCAPITAL LETTER O WITH MACRON",
     "gSMALL LETTER O WITH MACRONgCAPITAL LETTER O WITH BREVEgSMALL LETTER O WITH BREVE",
     "gCAPITAL LETTER O WITH DOUBLE ACUTEgSMALL LETTER O WITH DOUBLE ACUTEgCAPITAL LIGATURE OE",
     "gSMALL LIGATURE OEgCAPITAL LETTER R WITH ACUTEgSMALL LETTER R WITH ACUTE",
     "gCAPITAL LETTER R WITH CEDILLAgSMALL LETTER R WITH CEDILLAgCAPITAL LETTER R WITH CARON",
     "gSMALL LETTER R WITH CARONgCAPITAL LETTER S WITH ACUTEgSMALL LETTER S WITH ACUTE",
     "gCAPITAL LETTER S WITH CIRCUMFLEXgSMALL LETTER S WITH CIRCUMFLEX",
     "gCAPITAL LETTER S WITH CEDILLAgSMALL LETTER S WITH CEDILLAgCAPITAL LETTER S WITH CARON",
     "gSMALL LETTER S WITH CARONgCAPITAL LETTER T WITH CEDILLAgSMALL LETTER T WITH CEDILLA",
     "gCAPITAL LETTER T WITH CARONgSMALL LETTER T WITH CARONgCAPITAL LETTER T WITH STROKE",
     "gSMALL LETTER T WITH STROKEgCAPITAL LETTER U WITH TILDEgSMALL LETTER U WITH TILDE",
     "gCAPITAL LETTER U WITH MACRONgSMALL LETTER U WITH MACRONgCAPITAL LETTER U WITH BREVE",
     "gSMALL LETTER U WITH BREVEgCAPITAL LETTER U WITH RING ABOVEgSMALL LETTER U WITH RING ABOVE",
     "gCAPITAL LETTER U WITH DOUBLE ACUTEgSMALL LETTER U WITH DOUBLE ACUTE",
     "gCAPITAL LETTER U WITH OGONEKgSMALL LETTER U WITH OGONEKgCAPITAL LETTER W WITH CIRCUMFLEX",
     "gSMALL LETTER W WITH CIRCUMFLEXgCAPITAL LETTER Y WITH CIRCUMFLEX",
     "gSMALL LETTER Y WITH CIRCUMFLEXgCAPITAL LETTER Y WITH DIAERESISvZ WITH ACUTE",
     "gSMALL LETTER Z WITH ACUTEgCAPITAL LETTER Z WITH DOT ABOVEgSMALL LETTER Z WITH DOT ABOVE",
     "gCAPITAL LETTER Z WITH CARONgSMALL LETTER Z WITH CARONtLONG StB WITH STROKE",
     "gCAPITAL LETTER B WITH HOOK%TOPBARgSMALL LETTER B WITH TOPBARgCAPITAL LETTER TONE SIX",
     "gSMALL LETTER TONE SIXgCAPITAL LETTER OPEN OvC WITH HOOKgSMALL LETTER C WITH HOOK",
     "gCAPITAL LETTER AFRICAN DvD WITH HOOK%TOPBARgSMALL LETTER D WITH TOPBARtTURNED DELTA",
     "gCAPITAL LETTER REVERSED EvSCHWAvOPEN EvF WITH HOOKgSMALL LETTER F WITH HOOK",
     "gCAPITAL LETTER G WITH HOOKwAMMAgSMALL LETTER HVgCAPITAL LETTER IOTAw WITH STROKE",
     "vK WITH HOOKgSMALL LETTER K WITH HOOKtL WITH BARuAMBDA WITH STROKEgCAPITAL LETTER TURNED M",
     "vN WITH LEFT HOOKgSMALL LETTER N WITH LONG RIGHT LEGgCAPITAL LETTER O WITH MIDDLE TILDE",
     "%HORNgSMALL LETTER O WITH HORNgCAPITAL LETTER OIgSMALL LETTER OI",
     "gCAPITAL LETTER P WITH HOOKgSMALL LETTER P WITH HOOKgLETTER YRgCAPITAL LETTER TONE TWO",
     "gSMALL LETTER TONE TWOgCAPITAL LETTER ESHgLETTER REVERSED ESH LOOP",
     "gSMALL LETTER T WITH PALATAL HOOKgCAPITAL LETTER T WITH HOOKgSMALL LETTER T WITH HOOK",
     "gCAPITAL LETTER T WITH RETROFLEX HOOKvU WITH HORNgSMALL LETTER U WITH HORN",
     "gCAPITAL LETTER UPSILONvV WITH HOOKvY WITH HOOKgSMALL LETTER Y WITH HOOK",
     "gCAPITAL LETTER Z WITH STROKEgSMALL LETTER Z WITH STROKEgCAPITAL LETTER EZHy REVERSED",
     "gSMALL LETTER EZH REVERSEDxWITH TAILgLETTER TWO WITH STROKEgCAPITAL LETTER TONE FIVE",
     "gSMALL LETTER TONE FIVEgLETTER INVERTED GLOTTAL STOP WITH STROKEnWYNNnDENTAL CLICK",
     "nLATERAL CLICKnALVEOLAR CLICKnRETROFLEX CLICKgCAPITAL LETTER DZ WITH CARON",
     "w WITH SMALL LETTER Z WITH CARONgSMALL LETTER DZ WITH CARONgCAPITAL LETTER LJ",
     "w WITH SMALL LETTER JgSMALL LETTER LJgCAPITAL LETTER NJw WITH SMALL LETTER J",
     "gSMALL LETTER NJgCAPITAL LETTER A WITH CARONgSMALL LETTER A WITH CARON",
     "gCAPITAL LETTER I WITH CARONgSMALL LETTER I WITH CARONgCAPITAL LETTER O WITH CARON",
     "gSMALL LETTER O WITH CARONgCAPITAL LETTER U WITH CARONgSMALL LETTER U WITH CARON",
     "gCAPITAL LETTER U WITH DIAERESIS AND MACRONgSMALL LETTER U WITH DIAERESIS AND MACRON",
     "gCAPITAL LETTER U WITH DIAERESIS AND ACUTEgSMALL LETTER U WITH DIAERESIS AND ACUTE",
     "gCAPITAL LETTER U WITH DIAERESIS AND CARONgSMALL LETTER U WITH DIAERESIS AND CARON",
     "gCAPITAL LETTER U WITH DIAERESIS AND GRAVEgSMALL LETTER U WITH DIAERESIS AND GRAVE",
     "tTURNED EgCAPITAL LETTER A WITH DIAERESIS AND MACRON",
     "gSMALL LETTER A WITH DIAERESIS AND MACRONgCAPITAL LETTER A WITH DOT ABOVE AND MACRON",
     "gSMALL LETTER A WITH DOT ABOVE AND MACRONgCAPITAL LETTER AE WITH MACRON",
     "gSMALL LETTER AE WITH MACRONgCAPITAL LETTER G WITH STROKEgSMALL LETTER G WITH STROKE",
     "gCAPITAL LETTER G WITH CARONgSMALL LETTER G WITH CARONgCAPITAL LETTER K WITH CARON",
     "gSMALL LETTER K WITH CARONgCAPITAL LETTER O WITH OGONEKgSMALL LETTER O WITH OGONEK",
     "gCAPITAL LETTER O WITH OGONEK AND MACRONgSMALL LETTER O WITH OGONEK AND MACRON",
     "gCAPITAL LETTER EZH WITH CARONgSMALL LETTER EZH WITH CARONtJ WITH CARONgCAPITAL LETTER DZ",
     "w WITH SMALL LETTER ZgSMALL LETTER DZgCAPITAL LETTER G WITH ACUTE",
     "gSMALL LETTER G WITH ACUTEgCAPITAL LETTER HWAIRvWYNNvN WITH GRAVE",
     "gSMALL LETTER N WITH GRAVEgCAPITAL LETTER A WITH RING ABOVE AND ACUTE",
     "gSMALL LETTER A WITH RING ABOVE AND ACUTEgCAPITAL LETTER AE WITH ACUTE",
     "gSMALL LETTER AE WITH ACUTEgCAPITAL LETTER O WITH STROKE AND ACUTE",
     "gSMALL LETTER O WITH STROKE AND ACUTEgCAPITAL LETTER A WITH DOUBLE GRAVE",
     "gSMALL LETTER A WITH DOUBLE GRAVEgCAPITAL LETTER A WITH INVERTED BREVE",
     "gSMALL LETTER A WITH INVERTED BREVEgCAPITAL LETTER E WITH DOUBLE GRAVE",
     "gSMALL LETTER E WITH DOUBLE GRAVEgCAPITAL LETTER E WITH INVERTED BREVE",
     "gSMALL LETTER E WITH INVERTED BREVEgCAPITAL LETTER I WITH DOUBLE GRAVE",
     "gSMALL LETTER I WITH DOUBLE GRAVEgCAPITAL LETTER I WITH INVERTED BREVE",
     "gSMALL LETTER I WITH INVERTED BREVEgCAPITAL LETTER O WITH DOUBLE GRAVE",
     "gSMALL LETTER O WITH DOUBLE GRAVEgCAPITAL LETTER O WITH INVERTED BREVE",
     "gSMALL LETTER O WITH INVERTED BREVEgCAPITAL LETTER R WITH DOUBLE GRAVE",
     "gSMALL LETTER R WITH DOUBLE GRAVEgCAPITAL LETTER R WITH INVERTED BREVE",
     "gSMALL LETTER R WITH INVERTED BREVEgCAPITAL LETTER U WITH DOUBLE GRAVE",
     "gSMALL LETTER U WITH DOUBLE GRAVEgCAPITAL LETTER U WITH INVERTED BREVE",
     "gSMALL LETTER U WITH INVERTED BREVEgCAPITAL LETTER S WITH COMMA BELOW",
     "gSMALL LETTER S WITH COMMA BELOWgCAPITAL LETTER T WITH COMMA BELOW",
     "gSMALL LETTER T WITH COMMA BELOWgCAPITAL LETTER YOGHgSMALL LETTER YOGH",
     "gCAPITAL LETTER H WITH CARONgSMALL LETTER H WITH CARON",
     "gCAPITAL LETTER N WITH LONG RIGHT LEGgSMALL LETTER D WITH CURLgCAPITAL LETTER OU",
     "gSMALL LETTER OUgCAPITAL LETTER Z WITH HOOKgSMALL LETTER Z WITH HOOK",
     "gCAPITAL LETTER A WITH DOT ABOVEgSMALL LETTER A WITH DOT ABOVE",
     "gCAPITAL LETTER E WITH CEDILLAgSMALL LETTER E WITH CEDILLA",
     "gCAPITAL LETTER O WITH DIAERESIS AND MACRONgSMALL LETTER O WITH DIAERESIS AND MACRON",
     "gCAPITAL LETTER O WITH TILDE AND MACRONgSMALL LETTER O WITH TILDE AND MACRON",
     "gCAPITAL LETTER O WITH DOT ABOVEgSMALL LETTER O WITH DOT ABOVE",
     "gCAPITAL LETTER O WITH DOT ABOVE AND MACRONgSMALL LETTER O WITH DOT ABOVE AND MACRON",
     "gCAPITAL LETTER Y WITH MACRONgSMALL LETTER Y WITH MACRONtL WITH CURLtN WITH CURL",
     "tT WITH CURLtDOTLESS JuB DIGRAPHtQP DIGRAPHgCAPITAL LETTER A WITH STROKEvC WITH STROKE",
     "gSMALL LETTER C WITH STROKEgCAPITAL LETTER L WITH BARvT WITH DIAGONAL STROKE",
     "gSMALL LETTER S WITH SWASH TAILtZ WITH SWASH TAILgCAPITAL LETTER GLOTTAL STOP",
     "gSMALL LETTER GLOTTAL STOPgCAPITAL LETTER B WITH STROKEvU BARvTURNED VvE WITH STROKE",
     "gSMALL LETTER E WITH STROKEgCAPITAL LETTER J WITH STROKEgSMALL LETTER J WITH STROKE",
     "gCAPITAL LETTER SMALL Q WITH HOOK TAILgSMALL LETTER Q WITH HOOK TAIL",
     "gCAPITAL LETTER R WITH STROKEgSMALL LETTER R WITH STROKEgCAPITAL LETTER Y WITH STROKE",
     "gSMALL LETTER Y WITH STROKEtTURNED AtALPHAtTURNED ALPHAtB WITH HOOKtOPEN OtC WITH CURL",
     "tD WITH TAIL!HOOKtREVERSED EtSCHWAy WITH HOOKtOPEN EtREVERSED OPEN E/ WITH HOOK",
     "tCLOSED REVERSED OPEN EtDOTLESS J WITH STROKEtG WITH HOOKtSCRIPT GgLETTER SMALL CAPITAL G",
     "gSMALL LETTER GAMMAtRAMS HORNtTURNED HtH WITH HOOKuENG WITH HOOKtI WITH STROKEuOTA",
     "gLETTER SMALL CAPITAL IgSMALL LETTER L WITH MIDDLE TILDE!BELT!RETROFLEX HOOKuEZHtTURNED M",
     "$ WITH LONG LEGtM WITH HOOKtN WITH LEFT HOOK!RETROFLEX HOOKgLETTER SMALL CAPITAL N",
     "gSMALL LETTER BARRED OgLETTER SMALL CAPITAL OEgSMALL LETTER CLOSED OMEGAtPHItTURNED R",
     "$ WITH LONG LEG.HOOKtR WITH LONG LEG!TAIL!FISHHOOKuEVERSED R WITH FISHHOOK",
     "gLETTER SMALL CAPITAL R$INVERTED RgSMALL LETTER S WITH HOOKtESH",
     "tDOTLESS J WITH STROKE AND HOOKtSQUAT REVERSED ESHtESH WITH CURLtTURNED T",
     "u WITH RETROFLEX HOOKtU BARuPSILONtV WITH HOOKtTURNED V!W!YgLETTER SMALL CAPITAL Y",
     "gSMALL LETTER Z WITH RETROFLEX HOOK!CURLtEZHw WITH CURLgLETTER GLOTTAL STOP",
     "nPHARYNGEAL VOICED FRICATIVEnINVERTED GLOTTAL STOPnSTRETCHED CnBILABIAL CLICK",
     "nSMALL CAPITAL BgSMALL LETTER CLOSED OPEN EgLETTER SMALL CAPITAL G WITH HOOK$H",
     "gSMALL LETTER J WITH CROSSED-TAILtTURNED KgLETTER SMALL CAPITAL LgSMALL LETTER Q WITH HOOK",
     "gLETTER GLOTTAL STOP WITH STROKEnREVERSED GLOTTAL STOP WITH STROKEgSMALL LETTER DZ DIGRAPH",
     "uEZH DIGRAPHuZ DIGRAPH WITH CURLtTS DIGRAPHuESH DIGRAPHuC DIGRAPH WITH CURLtFENG DIGRAPH",
     "tLS DIGRAPHuZ DIGRAPHgLETTER BILABIAL PERCUSSIVEpDENTAL PERCUSSIVE",
     "gSMALL LETTER TURNED H WITH FISHHOOK@ AND TAILaMODIFIER LETTER SMALL Hx WITH HOOKwJwR",
     "wTURNED R* WITH HOOKwCAPITAL INVERTED RwWwYqPRIMEqDOUBLE PRIMEqTURNED COMMAqAPOSTROPHE",
     "qREVERSED COMMArIGHT HALF RINGqLEFT HALF RINGqGLOTTAL STOPqREVERSED GLOTTAL STOP",
     "qLEFT ARROWHEADqRIGHT ARROWHEADqUP ARROWHEADqDOWN ARROWHEADqCIRCUMFLEX ACCENTaCARON",
     "aMODIFIER LETTER VERTICAL LINEqMACRONqACUTE ACCENTqGRAVE ACCENTqLOW VERTICAL LINEuMACRON",
     "uGRAVE ACCENTuACUTE ACCENTqTRIANGULAR COLONqHALF TRIANGULAR COLONqCENTRED RIGHT HALF RING",
     "yLEFT HALF RINGqUP TACKqDOWN TACKqPLUS SIGNqMINUS SIGNaBREVEaDOT ABOVEaRING ABOVEaOGONEK",
     "aSMALL TILDEaDOUBLE ACUTE ACCENTaMODIFIER LETTER RHOTIC HOOKqCROSS ACCENTqSMALL GAMMAwLwS",
     "wXwREVERSED GLOTTAL STOPqEXTRA-HIGH TONE BARqHIGH TONE BARqMID TONE BARqLOW TONE BAR",
     "qEXTRA-LOW TONE BARqYIN DEPARTING TONE MARKrANG DEPARTING TONE MARKqVOICINGqUNASPIRATED",
     "qDOUBLE APOSTROPHEqLOW DOWN ARROWHEADuUP ARROWHEADuLEFT ARROWHEADuRIGHT ARROWHEADwNG",
     "qMIDDLE GRAVE ACCENTxDOUBLE GRAVE ACCENT*ACUTE ACCENTqLOW TILDEqRAISED COLON",
     "qBEGIN HIGH TONEqEND HIGH TONEqBEGIN LOW TONEqEND LOW TONEqSHELFqOPEN SHELFqLOW LEFT ARROW",
     "aCOMBINING GRAVE ACCENTkACUTE ACCENTkCIRCUMFLEX ACCENTkTILDEkMACRONkOVERLINEkBREVE",
     "kDOT ABOVElIAERESISkHOOK ABOVEkRING ABOVEkDOUBLE ACUTE ACCENTkCARONkVERTICAL LINE ABOVE",
     "kDOUBLE VERTICAL LINE ABOVErGRAVE ACCENTkCANDRABINDUkINVERTED BREVEkTURNED COMMA ABOVE",
     "kCOMMA ABOVEkREVERSED COMMA ABOVEkCOMMA ABOVE RIGHTkGRAVE ACCENT BELOWkACUTE ACCENT BELOW",
     "kLEFT TACK BELOWkRIGHT TACK BELOWkLEFT ANGLE ABOVEkHORNkLEFT HALF RING BELOWkUP TACK BELOW",
     "kDOWN TACK BELOWkPLUS SIGN BELOWkMINUS SIGN BELOWkPALATALIZED HOOK BELOW",
     "kRETROFLEX HOOK BELOWkDOT BELOWlIAERESIS BELOWkRING BELOWkCOMMA BELOWlEDILLAkOGONEK",
     "kVERTICAL LINE BELOWkBRIDGE BELOWkINVERTED DOUBLE ARCH BELOWkCARON BELOW",
     "lIRCUMFLEX ACCENT BELOWkBREVE BELOWkINVERTED BREVE BELOWkTILDE BELOWkMACRON BELOWkLOW LINE",
     "kDOUBLE LOW LINEkTILDE OVERLAYkSHORT STROKE OVERLAYkLONG STROKE OVERLAY",
     "kSHORT SOLIDUS OVERLAYkLONG SOLIDUS OVERLAYkRIGHT HALF RING BELOWkINVERTED BRIDGE BELOW",
     "kSQUARE BELOWlEAGULL BELOWkX ABOVEkVERTICAL TILDEkDOUBLE OVERLINEkGRAVE TONE MARK",
     "kACUTE TONE MARKkGREEK PERISPOMENIqKORONISqDIALYTIKA TONOSqYPOGEGRAMMENIkBRIDGE ABOVE",
     "kEQUALS SIGN BELOWkDOUBLE VERTICAL LINE BELOWkLEFT ANGLE BELOWkNOT TILDE ABOVE",
     "kHOMOTHETIC ABOVEkALMOST EQUAL TO ABOVEkLEFT RIGHT ARROW BELOWkUPWARDS ARROW BELOW",
     "kGRAPHEME JOINERkRIGHT ARROWHEAD ABOVEkLEFT HALF RING ABOVEkFERMATAkX BELOW",
     "kLEFT ARROWHEAD BELOWkRIGHT ARROWHEAD BELOW!AND UP ARROWHEAD BELOWqHALF RING ABOVE",
     "kDOT ABOVE RIGHTkASTERISK BELOWkDOUBLE RING BELOWkZIGZAG ABOVEkDOUBLE BREVE BELOWwrMACRON",
     "x BELOWrTILDErINVERTED BREVErRIGHTWARDS ARROW BELOWkLATIN SMALL LETTER A&E&I&O&U&C&D&H&M&R",
     "&T&V&XaGREEK CAPITAL LETTER HETAgSMALL LETTER HETAgCAPITAL LETTER ARCHAIC SAMPI",
     "gSMALL LETTER ARCHAIC SAMPIgNUMERAL SIGNgLOWER NUMERAL SIGN",
     "gCAPITAL LETTER PAMPHYLIAN DIGAMMAgSMALL LETTER PAMPHYLIAN DIGAMMA"]),
   (0x37a, [
     "aGREEK YPOGEGRAMMENIgSMALL REVERSED LUNATE SIGMA SYMBOLmDOTTED LUNATE SIGMA SYMBOL",
     "mREVERSED DOTTED LUNATE SIGMA SYMBOLgQUESTION MARKgCAPITAL LETTER YOT"]),
   (0x384, [
     "aGREEK TONOSgDIALYTIKA TONOSgCAPITAL LETTER ALPHA WITH TONOSgANO TELEIA",
     "gCAPITAL LETTER EPSILON WITH TONOSwTA WITH TONOSvIOTA WITH TONOS"]),
   (0x38c, ["aGREEK CAPITAL LETTER OMICRON WITH TONOS"]),
   (0x38e, [
     "aGREEK CAPITAL LETTER UPSILON WITH TONOSvOMEGA WITH TONOS",
     "gSMALL LETTER IOTA WITH DIALYTIKA AND TONOSgCAPITAL LETTER ALPHAvBETAvGAMMAvDELTAvEPSILON",
     "vZETAvETAvTHETAvIOTAvKAPPAvLAMDAvMUvNUvXIvOMICRONvPIvRHO"]),
   (0x3a3, [
     "aGREEK CAPITAL LETTER SIGMAvTAUvUPSILONvPHIvCHIvPSIvOMEGAvIOTA WITH DIALYTIKA",
     "vUPSILON WITH DIALYTIKAgSMALL LETTER ALPHA WITH TONOStEPSILON WITH TONOSuTA WITH TONOS",
     "tIOTA WITH TONOStUPSILON WITH DIALYTIKA AND TONOStALPHAtBETAtGAMMAtDELTAtEPSILONtZETAtETA",
     "tTHETAtIOTAtKAPPAtLAMDAtMUtNUtXItOMICRONtPItRHOtFINAL SIGMAtSIGMAtTAUtUPSILONtPHItCHItPSI",
     "tOMEGAtIOTA WITH DIALYTIKAtUPSILON WITH DIALYTIKAtOMICRON WITH TONOStUPSILON WITH TONOS",
     "tOMEGA WITH TONOSgCAPITAL KAI SYMBOLgBETA SYMBOLgTHETA SYMBOLgUPSILON WITH HOOK SYMBOL",
     "tACUTE AND HOOK SYMBOLtDIAERESIS AND HOOK SYMBOLgPHI SYMBOLhI SYMBOLgKAI SYMBOL",
     "gLETTER ARCHAIC KOPPAgSMALL LETTER ARCHAIC KOPPAgLETTER STIGMAgSMALL LETTER STIGMA",
     "gLETTER DIGAMMAgSMALL LETTER DIGAMMAgLETTER KOPPAgSMALL LETTER KOPPAgLETTER SAMPI",
     "gSMALL LETTER SAMPIaCOPTIC CAPITAL LETTER SHEIhSMALL LETTER SHEIhCAPITAL LETTER FEI",
     "hSMALL LETTER FEIhCAPITAL LETTER KHEIhSMALL LETTER KHEIhCAPITAL LETTER HORI",
     "hSMALL LETTER HORIhCAPITAL LETTER GANGIAhSMALL LETTER GANGIAhCAPITAL LETTER SHIMA",
     "hSMALL LETTER SHIMAhCAPITAL LETTER DEIhSMALL LETTER DEIaGREEK KAPPA SYMBOLgRHO SYMBOL",
     "gLUNATE SIGMA SYMBOLhETTER YOTgCAPITAL THETA SYMBOLgLUNATE EPSILON SYMBOL",
     "gREVERSED LUNATE EPSILON SYMBOLgCAPITAL LETTER SHOgSMALL LETTER SHO",
     "gCAPITAL LUNATE SIGMA SYMBOLpETTER SANgSMALL LETTER SANgRHO WITH STROKE SYMBOL",
     "gCAPITAL REVERSED LUNATE SIGMA SYMBOLoDOTTED LUNATE SIGMA SYMBOL",
     "oREVERSED DOTTED LUNATE SIGMA SYMBOLaCYRILLIC CAPITAL LETTER IE WITH GRAVEzOyDJEyGJE",
     "yUKRAINIAN IEyDZEyBYELORUSSIAN-UKRAINIAN IyYIyJEyLJEyNJEyTSHEyKJEyI WITH GRAVEySHORT U",
     "yDZHEyAyBEyVEyGHEyDEyIEyZHEzEyIySHORT IyKAyELzMzNyOyPEyERzSyTEyUyEFyHAyTSEyCHEySHA!CHA",
     "yHARD SIGNyYERUySOFT SIGNyEyYUzAjSMALL LETTER AwBEwVEwGHEwDEwIEwZHExEwIwSHORT IwKAwELxMxN",
     "wOwPEwERxSwTEwUwEFwHAwTSEwCHEwSHAyCHAwHARD SIGNwYERUwSOFT SIGNwEwYUxAwIE WITH GRAVExOwDJE",
     "wGJEwUKRAINIAN IEwDZEwBYELORUSSIAN-UKRAINIAN IwYIwJEwLJEwNJEwTSHEwKJEwI WITH GRAVEwSHORT U",
     "wDZHEjCAPITAL LETTER OMEGAjSMALL LETTER OMEGAjCAPITAL LETTER YATjSMALL LETTER YAT",
     "jCAPITAL LETTER IOTIFIED EjSMALL LETTER IOTIFIED EjCAPITAL LETTER LITTLE YUS",
     "jSMALL LETTER LITTLE YUSjCAPITAL LETTER IOTIFIED LITTLE YUS",
     "jSMALL LETTER IOTIFIED LITTLE YUSjCAPITAL LETTER BIG YUSjSMALL LETTER BIG YUS",
     "jCAPITAL LETTER IOTIFIED BIG YUSjSMALL LETTER IOTIFIED BIG YUSjCAPITAL LETTER KSI",
     "jSMALL LETTER KSIjCAPITAL LETTER PSIjSMALL LETTER PSIjCAPITAL LETTER FITA",
     "jSMALL LETTER FITAjCAPITAL LETTER IZHITSAjSMALL LETTER IZHITSA",
     "jCAPITAL LETTER IZHITSA WITH DOUBLE GRAVE ACCENT",
     "jSMALL LETTER IZHITSA WITH DOUBLE GRAVE ACCENTjCAPITAL LETTER UKjSMALL LETTER UK",
     "jCAPITAL LETTER ROUND OMEGAjSMALL LETTER ROUND OMEGAjCAPITAL LETTER OMEGA WITH TITLO",
     "jSMALL LETTER OMEGA WITH TITLOjCAPITAL LETTER OTjSMALL LETTER OTjCAPITAL LETTER KOPPA",
     "jSMALL LETTER KOPPAjTHOUSANDS SIGNbOMBINING CYRILLIC TITLOtPALATALIZATIONtDASIA PNEUMATA",
     "tPSILI PNEUMATAuOKRYTIEtHUNDRED THOUSANDS SIGNtMILLIONS SIGN",
     "bYRILLIC CAPITAL LETTER SHORT I WITH TAILjSMALL LETTER SHORT I WITH TAIL",
     "jCAPITAL LETTER SEMISOFT SIGNjSMALL LETTER SEMISOFT SIGNjCAPITAL LETTER ER WITH TICK",
     "jSMALL LETTER ER WITH TICKjCAPITAL LETTER GHE WITH UPTURNjSMALL LETTER GHE WITH UPTURN",
     "jCAPITAL LETTER GHE WITH STROKEjSMALL LETTER GHE WITH STROKE",
     "jCAPITAL LETTER GHE WITH MIDDLE HOOKjSMALL LETTER GHE WITH MIDDLE HOOK",
     "jCAPITAL LETTER ZHE WITH DESCENDERjSMALL LETTER ZHE WITH DESCENDER",
     "jCAPITAL LETTER ZE WITH DESCENDERjSMALL LETTER ZE WITH DESCENDER",
     "jCAPITAL LETTER KA WITH DESCENDERjSMALL LETTER KA WITH DESCENDER",
     "jCAPITAL LETTER KA WITH VERTICAL STROKEjSMALL LETTER KA WITH VERTICAL STROKE",
     "jCAPITAL LETTER KA WITH STROKEjSMALL LETTER KA WITH STROKEjCAPITAL LETTER BASHKIR KA",
     "jSMALL LETTER BASHKIR KAjCAPITAL LETTER EN WITH DESCENDERjSMALL LETTER EN WITH DESCENDER",
     "jCAPITAL LIGATURE EN GHEjSMALL LIGATURE EN GHEjCAPITAL LETTER PE WITH MIDDLE HOOK",
     "jSMALL LETTER PE WITH MIDDLE HOOKjCAPITAL LETTER ABKHASIAN HAjSMALL LETTER ABKHASIAN HA",
     "jCAPITAL LETTER ES WITH DESCENDERjSMALL LETTER ES WITH DESCENDER",
     "jCAPITAL LETTER TE WITH DESCENDERjSMALL LETTER TE WITH DESCENDERjCAPITAL LETTER STRAIGHT U",
     "jSMALL LETTER STRAIGHT UjCAPITAL LETTER STRAIGHT U WITH STROKE",
     "jSMALL LETTER STRAIGHT U WITH STROKEjCAPITAL LETTER HA WITH DESCENDER",
     "jSMALL LETTER HA WITH DESCENDERjCAPITAL LIGATURE TE TSEjSMALL LIGATURE TE TSE",
     "jCAPITAL LETTER CHE WITH DESCENDERjSMALL LETTER CHE WITH DESCENDER",
     "jCAPITAL LETTER CHE WITH VERTICAL STROKEjSMALL LETTER CHE WITH VERTICAL STROKE",
     "jCAPITAL LETTER SHHAjSMALL LETTER SHHAjCAPITAL LETTER ABKHASIAN CHE",
     "jSMALL LETTER ABKHASIAN CHEjCAPITAL LETTER ABKHASIAN CHE WITH DESCENDER",
     "jSMALL LETTER ABKHASIAN CHE WITH DESCENDERjLETTER PALOCHKAjCAPITAL LETTER ZHE WITH BREVE",
     "jSMALL LETTER ZHE WITH BREVEjCAPITAL LETTER KA WITH HOOKjSMALL LETTER KA WITH HOOK",
     "jCAPITAL LETTER EL WITH TAILjSMALL LETTER EL WITH TAILjCAPITAL LETTER EN WITH HOOK",
     "jSMALL LETTER EN WITH HOOKjCAPITAL LETTER EN WITH TAILjSMALL LETTER EN WITH TAIL",
     "jCAPITAL LETTER KHAKASSIAN CHEjSMALL LETTER KHAKASSIAN CHEjCAPITAL LETTER EM WITH TAIL",
     "jSMALL LETTER EM WITH TAILwPALOCHKAjCAPITAL LETTER A WITH BREVEjSMALL LETTER A WITH BREVE",
     "jCAPITAL LETTER A WITH DIAERESISjSMALL LETTER A WITH DIAERESISjCAPITAL LIGATURE A IE",
     "jSMALL LIGATURE A IEjCAPITAL LETTER IE WITH BREVEjSMALL LETTER IE WITH BREVE",
     "jCAPITAL LETTER SCHWAjSMALL LETTER SCHWAjCAPITAL LETTER SCHWA WITH DIAERESIS",
     "jSMALL LETTER SCHWA WITH DIAERESISjCAPITAL LETTER ZHE WITH DIAERESIS",
     "jSMALL LETTER ZHE WITH DIAERESISjCAPITAL LETTER ZE WITH DIAERESIS",
     "jSMALL LETTER ZE WITH DIAERESISjCAPITAL LETTER ABKHASIAN DZEjSMALL LETTER ABKHASIAN DZE",
     "jCAPITAL LETTER I WITH MACRONjSMALL LETTER I WITH MACRONjCAPITAL LETTER I WITH DIAERESIS",
     "jSMALL LETTER I WITH DIAERESISjCAPITAL LETTER O WITH DIAERESIS",
     "jSMALL LETTER O WITH DIAERESISjCAPITAL LETTER BARRED OjSMALL LETTER BARRED O",
     "jCAPITAL LETTER BARRED O WITH DIAERESISjSMALL LETTER BARRED O WITH DIAERESIS",
     "jCAPITAL LETTER E WITH DIAERESISjSMALL LETTER E WITH DIAERESIS",
     "jCAPITAL LETTER U WITH MACRONjSMALL LETTER U WITH MACRONjCAPITAL LETTER U WITH DIAERESIS",
     "jSMALL LETTER U WITH DIAERESISjCAPITAL LETTER U WITH DOUBLE ACUTE",
     "jSMALL LETTER U WITH DOUBLE ACUTEjCAPITAL LETTER CHE WITH DIAERESIS",
     "jSMALL LETTER CHE WITH DIAERESISjCAPITAL LETTER GHE WITH DESCENDER",
     "jSMALL LETTER GHE WITH DESCENDERjCAPITAL LETTER YERU WITH DIAERESIS",
     "jSMALL LETTER YERU WITH DIAERESISjCAPITAL LETTER GHE WITH STROKE AND HOOK",
     "jSMALL LETTER GHE WITH STROKE AND HOOKjCAPITAL LETTER HA WITH HOOK",
     "jSMALL LETTER HA WITH HOOKjCAPITAL LETTER HA WITH STROKEjSMALL LETTER HA WITH STROKE",
     "jCAPITAL LETTER KOMI DEjSMALL LETTER KOMI DEjCAPITAL LETTER KOMI DJEjSMALL LETTER KOMI DJE",
     "jCAPITAL LETTER KOMI ZJEjSMALL LETTER KOMI ZJEjCAPITAL LETTER KOMI DZJE",
     "jSMALL LETTER KOMI DZJEjCAPITAL LETTER KOMI LJEjSMALL LETTER KOMI LJE",
     "jCAPITAL LETTER KOMI NJEjSMALL LETTER KOMI NJEjCAPITAL LETTER KOMI SJE",
     "jSMALL LETTER KOMI SJEjCAPITAL LETTER KOMI TJEjSMALL LETTER KOMI TJE",
     "jCAPITAL LETTER REVERSED ZEjSMALL LETTER REVERSED ZEjCAPITAL LETTER EL WITH HOOK",
     "jSMALL LETTER EL WITH HOOKjCAPITAL LETTER LHAjSMALL LETTER LHAjCAPITAL LETTER RHA",
     "jSMALL LETTER RHAjCAPITAL LETTER YAEjSMALL LETTER YAEjCAPITAL LETTER QAjSMALL LETTER QA",
     "jCAPITAL LETTER WEjSMALL LETTER WEjCAPITAL LETTER ALEUT KAjSMALL LETTER ALEUT KA",
     "jCAPITAL LETTER EL WITH MIDDLE HOOKjSMALL LETTER EL WITH MIDDLE HOOK",
     "jCAPITAL LETTER EN WITH MIDDLE HOOKjSMALL LETTER EN WITH MIDDLE HOOK",
     "jCAPITAL LETTER PE WITH DESCENDERjSMALL LETTER PE WITH DESCENDER",
     "jCAPITAL LETTER SHHA WITH DESCENDERjSMALL LETTER SHHA WITH DESCENDER",
     "jCAPITAL LETTER EN WITH LEFT HOOKjSMALL LETTER EN WITH LEFT HOOKjCAPITAL LETTER DZZHE",
     "jSMALL LETTER DZZHEjCAPITAL LETTER DCHEjSMALL LETTER DCHEjCAPITAL LETTER EL WITH DESCENDER",
     "jSMALL LETTER EL WITH DESCENDER"]),
   (0x531, [
     "aARMENIAN CAPITAL LETTER AYByBENyGIMyDAyECHyZAyEHzTyTOyZHEyINIyLIWNyXEHyCAyKENyHOyJAyGHAD",
     "yCHEHyMENyYIyNOWySHAyVOyCHAyPEHyJHEHyRAySEHyVEWyTIWNyREHyCOyYIWNyPIWRyKEHyOHyFEH"]),
   (0x559, [
     "aARMENIAN MODIFIER LETTER LEFT HALF RINGjAPOSTROPHEjEMPHASIS MARKkXCLAMATION MARKjCOMMA",
     "jQUESTION MARKjABBREVIATION MARKjSMALL LETTER TURNED AYBwAYBwBENwGIMwDAwECHwZAwEHxTwTOwZHE",
     "wINIwLIWNwXEHwCAwKENwHOwJAwGHADwCHEHwMENwYIwNOWwSHAwVOwCHAwPEHwJHEHwRAwSEHwVEWwTIWNwREHwCO",
     "wYIWNwPIWRwKEHwOHwFEHqIGATURE ECH YIWNqETTER YI WITH STROKEjFULL STOPjHYPHEN"]),
   (0x58d, [
     "aRIGHT-FACING ARMENIAN ETERNITY SIGNaLEFT-FACING ARMENIAN ETERNITY SIGNaARMENIAN DRAM SIGN"])]

end TokenTemplate.Unicode
