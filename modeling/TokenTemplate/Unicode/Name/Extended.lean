import TokenTemplate.Unicode.Name.Run

/-!
# Names of extended Latin and Greek

The names that version 14 of the standard gives to characters:
further letters for Latin, Greek and Georgian, and scripts of Indonesia.
-/

namespace TokenTemplate.Unicode

/-- Runs of characters with their names. -/
def extendedNames : List NameRun :=
  [(0x1ab0, [
     "aCOMBINING DOUBLED CIRCUMFLEX ACCENTlIAERESIS-RINGkINFINITYkDOWNWARDS ARROWkTRIPLE DOT",
     "kX-X BELOWkWIGGLY LINE BELOWkOPEN MARK BELOWkDOUBLE OPEN MARK BELOW",
     "kLIGHT CENTRALIZATION STROKE BELOWkSTRONG CENTRALIZATION STROKE BELOWkPARENTHESES ABOVE",
     "kDOUBLE PARENTHESES ABOVEkPARENTHESES BELOWwOVERLAYkLATIN SMALL LETTER W BELOW",
     "&TURNED W BELOWlEFT PARENTHESIS ABOVE LEFTkRIGHT PARENTHESIS ABOVE RIGHT",
     "kLEFT PARENTHESIS BELOW LEFTkRIGHT PARENTHESIS BELOW RIGHTkSQUARE BRACKETS ABOVE",
     "kNUMBER SIGN ABOVEkINVERTED DOUBLE ARCH ABOVEkPLUS SIGN ABOVEkDOUBLE PLUS SIGN ABOVE$BELOW",
     "kTRIPLE ACUTE ACCENTkLATIN SMALL LETTER INSULAR G<R<T"]),
   (0x1b00, [
     "aBALINESE SIGN ULU RICEMsCANDRAoCECEKoSURANGoBISAHjLETTER AKARAv TEDUNGqIKARAv TEDUNG",
     "qUKARAv TEDUNGqRA REPAx TEDUNGqLA LENGAy TEDUNGqEKARAqAIKARAqOKARAv TEDUNGqKAs MAHAPRANA",
     "qGAs GORAqNGAqCAs LACAqJAs JERAqNYAqTA LATIKtMURDA MAHAPRANAqDA MURDA ALPAPRANAzMAHAPRANA",
     "qNA RAMBATqTAs TAWAqDAs MADUqNAqPAs KAPALqBAs KEMBANGqMAqYAqRAqLAqWAqSA SAGAvPAsqHA",
     "jSIGN REREKANjVOWEL SIGN TEDUNGuULUx SARIuSUKUy ILUTuRA REPA$ TEDUNGuLA LENGA% TEDUNG",
     "uTALING! REPA$TEDUNG$REPA TEDUNGuPEPETz TEDUNGjADEG ADEGjLETTER KAF SASAKrHOT SASAK",
     "qTZIR SASAKqEF SASAKqVE SASAKqZAL SASAKqASYURA SASAKrRCHAIC JNYA"]),
   (0x1b50, [
     "aBALINESE DIGIT ZEROpONEpTWOqHREEpFOURqIVEpSIXqEVENpEIGHTpNINEjPANTIlMADAjWINDU",
     "jCARIK PAMUNGKAHpSIKIpPARERENjPAMENENGjMUSICAL SYMBOL DONGzENGzUNGzANG% SURANGzINGzAENG",
     "zEUNGzAING!NG GEDEyCOMBINING TEGEH/ENDEP/KEMPUL=LI/JEGOGAN/KEMPUL WITH JEGOGAN",
     "=LI WITH JEGOGAN/BENDE/GONGyRIGHT-HAND OPEN DUG@AG:CLOSED TUK_AKyLEFT-HAND OPEN PANG?UNG",
     "/CLOSED PLAK_UK/OPEN PINGjPANTI LANTANGlMADA LANTANG"]),
   (0x1b80, [
     "aSUNDANESE SIGN PANYECEKsGLAYARtWISADkLETTER ArIrUrAErOrEsUrKArQArGArNGArCArJArZArNYArTA",
     "rDArNArPArFArVArBArMArYArRArLArWArSArXArHAkCONSONANT SIGN PAMINGKAL$NYAKRA&IKU",
     "kVOWEL SIGN PANGHULUyYUKUyAELAENGyOLONGxMEPETxNEULEUNGkSIGN PAMAAEHpVIRAMA",
     "kCONSONANT SIGN PASANGAN MA/WAkLETTER KHArSYAkDIGIT ZEROqONEqTWOrHREEqFOURrIVEqSIXrEVEN",
     "qEIGHTqNINEkAVAGRAHAkLETTER REUrLEUrBHArFINAL KxMaBATAK LETTER AnSIMALUNGUN AnHA",
     "nSIMALUNGUN HAnMANDAILING HAnBAnKARO BAnPAnSIMALUNGUN PAnNAnMANDAILING NAnWAnSIMALUNGUN WA",
     "nPAKPAK WAnGAnSIMALUNGUN GAnJAnDAnRAnSIMALUNGUN RAnMAnSIMALUNGUN MAoOUTHERN TAnNORTHERN TA",
     "nSAoIMALUNGUN SAnMANDAILING SAnYAnSIMALUNGUN YAnNGAnLAnSIMALUNGUN LAnNYAnCAnNDAnMBAnInU",
     "gSIGN TOMPIgVOWEL SIGN ErPAKPAK ErEErIrKARO IrOrKARO OrUs FOR SIMALUNGUN SA",
     "gCONSONANT SIGN NGvHgPANGOLATjONGONAN"]),
   (0x1bfc, [
     "aBATAK SYMBOL BINDU NA METEKtPINARBORAStJUDULtPANGOLATaLEPCHA LETTER KApLApHAoGApLAoNGAoCA",
     "pHAoJAoNYAoTApHAoDAoNAoPApLApHAoFApLAoBApLAoMApLAoTSAqHAoDZAoYAoRAoLAoHApLAoVAoSApHAoWAoA",
     "hSUBJOINED LETTER YAyRAhVOWEL SIGN AAsIsOtOsUtUsEhCONSONANT SIGN KwMwLwNwPwRwTwNYIN-DO",
     "wKANGhSIGN RANmNUKTA"]),
   (0x1c3b, [
     "aLEPCHA PUNCTUATION TA-ROLtNYET THYOOM TA-ROLtCER-WAtTSHOOK CER-WAzhDIGIT ZEROnONEnTWO",
     "oHREEnFOURoIVEnSIXoEVENnEIGHTnNINE"]),
   (0x1c4d, [
     "aLEPCHA LETTER TTAqHAoDDAaOL CHIKI DIGIT ZEROpONEpTWOqHREEpFOURqIVEpSIXqEVENpEIGHTpNINE",
     "jLETTER LAqATrGrNGrLqLAAqAAKsJsMsWqLIqISrHrNYrRqLUqUCrDrNNrYqLEqEPrDDrNrRRqLOqOTTrBrVrH",
     "jMU TTUDDAGjGAAHLAA TTUDDAAGjMU-GAAHLAA TTUDDAAGjRELAAjPHAARKAAjAHADjPUNCTUATION MUCAAD",
     "vDOUBLE MUCAADaCYRILLIC SMALL LETTER ROUNDED VEwLONG-LEGGED DEwNARROW OwWIDE ESwTALL TE",
     "xHREE-LEGGED TExALL HARD SIGN$YATwUNBLENDED UK"]),
   (0x1c90, [
     "aGEORGIAN MTAVRULI CAPITAL LETTER AN.BAN.GAN.DON.EN.VIN.ZEN.TAN.IN.KAN.LAS.MAN.NAR.ON.PAR",
     ".ZHAR.RAE.SAN.TAR.UN.PHAR.KHAR.GHAN.QAR.SHIN.CHIN/AN.JIL.CIL/HAR.XAN.JHAN.HAE/E/IE.WE.HAR",
     "/OE.FI.YN.ELIFI.TURNED GAN.AIN"]),
   (0x1cbd, [
     "aGEORGIAN MTAVRULI CAPITAL LETTER AEN.HARD SIGN.LABIAL SIGN",
     "aSUNDANESE PUNCTUATION BINDU SURYA%PANGLONG&URNAMA%CAKRA%LEU SATANGA%KA SATANGA%DA SATANGA",
     "%BA SATANGA"]),
   (0x1cd0, [
     "aVEDIC TONE KARSHANAlSHARAlPRENKHAgSIGN NIHSHVASAlYAJURVEDIC MIDLINE SVARITA",
     "gTONE YAJURVEDIC AGGRAVATED INDEPENDENT SVARITAwINDEPENDENT SVARITA",
     "wKATHAKA INDEPENDENT SVARITAlCANDRA BELOWlYAJURVEDIC KATHAKA INDEPENDENT SVARITA SCHROEDER",
     "lDOUBLE SVARITAlTRIPLE SVARITAlKATHAKA ANUDATTAlDOT BELOWlTWO DOTS BELOWmHREE DOTS BELOW",
     "lRIGVEDIC KASHMIRI INDEPENDENT SVARITAlATHARVAVEDIC INDEPENDENT SVARITA",
     "gSIGN VISARGA SVARITAtUDATTAlREVERSED VISARGA UDATTAlVISARGA ANUDATTA",
     "lREVERSED VISARGA ANUDATTAlVISARGA UDATTA WITH TAILtANUDATTA WITH TAIL",
     "lANUSVARA ANTARGOMUKHAuBAHIRGOMUKHAuVAMAGOMUKHA+ WITH TAILlTIRYAKlHEXIFORM LONG ANUSVARA",
     "lLONG ANUSVARAlRTHANG LONG ANUSVARAlANUSVARA UBHAYATO MUKHAmRDHAVISARGA",
     "lROTATED ARDHAVISARGAgTONE CANDRA ABOVEgSIGN JIHVAMULIYAlUPADHMANIYAlATIKRAMA",
     "gTONE RING ABOVElDOUBLE RING ABOVEgSIGN DOUBLE ANUSVARA ANTARGOMUKHA"]),
   (0x1d00, [
     "aLATIN LETTER SMALL CAPITAL A%EgSMALL LETTER TURNED AEgLETTER SMALL CAPITAL BARRED B$C$D",
     "$ETH%gSMALL LETTER TURNED OPEN E!IgLETTER SMALL CAPITAL J$K$L WITH STROKE$M$REVERSED N$O",
     "%PEN OgSMALL LETTER SIDEWAYS O&PEN O& WITH STROKEtTURNED OEgLETTER SMALL CAPITAL OU",
     "gSMALL LETTER TOP HALF OtBOTTOM HALF OgLETTER SMALL CAPITAL P$REVERSED R$TURNED R%$U",
     "gSMALL LETTER SIDEWAYS U%DIAERESIZED U%TURNED MgLETTER SMALL CAPITAL V$W$Z$EZH",
     "nVOICED LARYNGEAL SPIRANTnAINaGREEK LETTER SMALL CAPITAL GAMMA$LAMDA$PI$RHO$PSI",
     "aCYRILLIC LETTER SMALL CAPITAL ELaMODIFIER LETTER CAPITAL AzEyBzARRED ByDyEyREVERSED EyGyH",
     "yIyJyKyLyMyNyREVERSED NyOzUyPyRyTyUyWqSMALL AwTURNED AwALPHAwTURNED AEwBwDwEwSCHWAwOPEN E",
     "wTURNED OPEN EwGwTURNED IwKwMwENGwOxPEN OwTOP HALF OwBOTTOM HALF OwPwTwUwSIDEWAYS U",
     "wTURNED MwVwAINwBETAwGREEK GAMMAwDELTAwGREEK PHIwCHIaLATIN SUBSCRIPT SMALL LETTER I&R&U&V",
     "aGREEK SUBSCRIPT SMALL LETTER BETA&GAMMA&RHO&PHI&CHIaLATIN SMALL LETTER UE",
     "tB WITH MIDDLE TILDEtD WITH MIDDLE TILDEtF WITH MIDDLE TILDEtM WITH MIDDLE TILDE",
     "tN WITH MIDDLE TILDEtP WITH MIDDLE TILDEtR WITH MIDDLE TILDE!FISHHOOK AND MIDDLE TILDE",
     "tS WITH MIDDLE TILDEtT WITH MIDDLE TILDEtZ WITH MIDDLE TILDEtTURNED G",
     "aMODIFIER LETTER CYRILLIC ENaLATIN SMALL LETTER INSULAR GtTH WITH STRIKETHROUGH",
     "mCAPITAL LETTER I WITH STROKEmLETTER IOTA WITH STROKEtP WITH STROKE",
     "mCAPITAL LETTER U WITH STROKEmLETTER UPSILON WITH STROKEtB WITH PALATAL HOOK",
     "tD WITH PALATAL HOOKtF WITH PALATAL HOOKtG WITH PALATAL HOOKtK WITH PALATAL HOOK",
     "tL WITH PALATAL HOOKtM WITH PALATAL HOOKtN WITH PALATAL HOOKtP WITH PALATAL HOOK",
     "tR WITH PALATAL HOOKtS WITH PALATAL HOOKtESH WITH PALATAL HOOKtV WITH PALATAL HOOK",
     "tX WITH PALATAL HOOKtZ WITH PALATAL HOOKtA WITH RETROFLEX HOOKuLPHA WITH RETROFLEX HOOK",
     "tD WITH HOOK AND TAILtE WITH RETROFLEX HOOKtOPEN E WITH RETROFLEX HOOK",
     "tREVERSED OPEN E WITH RETROFLEX HOOKtSCHWA WITH RETROFLEX HOOKtI WITH RETROFLEX HOOK",
     "tOPEN O WITH RETROFLEX HOOKtESH WITH RETROFLEX HOOKtU WITH RETROFLEX HOOK",
     "tEZH WITH RETROFLEX HOOKaMODIFIER LETTER SMALL TURNED ALPHAwCx WITH CURLwETH",
     "wREVERSED OPEN EwFwDOTLESS J WITH STROKEwSCRIPT GwTURNED HwI WITH STROKExOTAwCAPITAL I",
     "+ WITH STROKEwJ WITH CROSSED-TAILwL WITH RETROFLEX HOOK&PALATAL HOOKwCAPITAL LwM WITH HOOK",
     "wTURNED M WITH LONG LEGwN WITH LEFT HOOK&RETROFLEX HOOKwCAPITAL NwBARRED OwPHIwS WITH HOOK",
     "wESHwT WITH PALATAL HOOKwU BARxPSILONwCAPITAL UwV WITH HOOKwTURNED VwZ",
     "x WITH RETROFLEX HOOK&CURLwEZHwTHETAaCOMBINING DOTTED GRAVE ACCENTrACUTE ACCENT",
     "kSNAKE BELOWlUSPENSION MARKkMACRON-ACUTEkGRAVE-MACRONkMACRON-GRAVEkACUTE-MACRON",
     "kGRAVE-ACUTE-GRAVEkACUTE-GRAVE-ACUTEkLATIN SMALL LETTER R BELOWkBREVE-MACRONkMACRON-BREVE",
     "kDOUBLE CIRCUMFLEX ABOVEkOGONEK ABOVEkZIGZAG BELOWkIS BELOWkUR ABOVElS ABOVE",
     "kLATIN SMALL LETTER FLATTENED OPEN A ABOVE&AE*O*V&C CEDILLA&INSULAR D&ETH&G",
     "qLETTER SMALL CAPITAL GqSMALL LETTER K&LqLETTER SMALL CAPITAL L<MqSMALL LETTER N",
     "qLETTER SMALL CAPITAL N<RqSMALL LETTER R ROTUNDA&S&LONG S&Z&ALPHA&B*ETA&SCHWA&F",
     "&L WITH DOUBLE MIDDLE TILDE&O WITH LIGHT CENTRALIZATION STROKE&P&ESH",
     "&U WITH LIGHT CENTRALIZATION STROKE&W&A WITH DIAERESIS&O WITH DIAERESIS&U WITH DIAERESIS",
     "kUP TACK ABOVEkKAVYKA ABOVE RIGHTxLEFTkDOT ABOVE LEFTkWIDE INVERTED BRIDGE BELOW",
     "kDOT BELOW LEFTlELETION MARKlOUBLE INVERTED BREVE BELOWkALMOST EQUAL TO BELOW",
     "kLEFT ARROWHEAD ABOVEkRIGHT ARROWHEAD AND DOWN ARROWHEAD BELOW",
     "aLATIN CAPITAL LETTER A WITH RING BELOWgSMALL LETTER A WITH RING BELOW",
     "gCAPITAL LETTER B WITH DOT ABOVEgSMALL LETTER B WITH DOT ABOVE",
     "gCAPITAL LETTER B WITH DOT BELOWgSMALL LETTER B WITH DOT BELOW",
     "gCAPITAL LETTER B WITH LINE BELOWgSMALL LETTER B WITH LINE BELOW",
     "gCAPITAL LETTER C WITH CEDILLA AND ACUTEgSMALL LETTER C WITH CEDILLA AND ACUTE",
     "gCAPITAL LETTER D WITH DOT ABOVEgSMALL LETTER D WITH DOT ABOVE",
     "gCAPITAL LETTER D WITH DOT BELOWgSMALL LETTER D WITH DOT BELOW",
     "gCAPITAL LETTER D WITH LINE BELOWgSMALL LETTER D WITH LINE BELOW",
     "gCAPITAL LETTER D WITH CEDILLAgSMALL LETTER D WITH CEDILLA",
     "gCAPITAL LETTER D WITH CIRCUMFLEX BELOWgSMALL LETTER D WITH CIRCUMFLEX BELOW",
     "gCAPITAL LETTER E WITH MACRON AND GRAVEgSMALL LETTER E WITH MACRON AND GRAVE",
     "gCAPITAL LETTER E WITH MACRON AND ACUTEgSMALL LETTER E WITH MACRON AND ACUTE",
     "gCAPITAL LETTER E WITH CIRCUMFLEX BELOWgSMALL LETTER E WITH CIRCUMFLEX BELOW",
     "gCAPITAL LETTER E WITH TILDE BELOWgSMALL LETTER E WITH TILDE BELOW",
     "gCAPITAL LETTER E WITH CEDILLA AND BREVEgSMALL LETTER E WITH CEDILLA AND BREVE",
     "gCAPITAL LETTER F WITH DOT ABOVEgSMALL LETTER F WITH DOT ABOVE",
     "gCAPITAL LETTER G WITH MACRONgSMALL LETTER G WITH MACRONgCAPITAL LETTER H WITH DOT ABOVE",
     "gSMALL LETTER H WITH DOT ABOVEgCAPITAL LETTER H WITH DOT BELOW",
     "gSMALL LETTER H WITH DOT BELOWgCAPITAL LETTER H WITH DIAERESIS",
     "gSMALL LETTER H WITH DIAERESISgCAPITAL LETTER H WITH CEDILLAgSMALL LETTER H WITH CEDILLA",
     "gCAPITAL LETTER H WITH BREVE BELOWgSMALL LETTER H WITH BREVE BELOW",
     "gCAPITAL LETTER I WITH TILDE BELOWgSMALL LETTER I WITH TILDE BELOW",
     "gCAPITAL LETTER I WITH DIAERESIS AND ACUTEgSMALL LETTER I WITH DIAERESIS AND ACUTE",
     "gCAPITAL LETTER K WITH ACUTEgSMALL LETTER K WITH ACUTEgCAPITAL LETTER K WITH DOT BELOW",
     "gSMALL LETTER K WITH DOT BELOWgCAPITAL LETTER K WITH LINE BELOW",
     "gSMALL LETTER K WITH LINE BELOWgCAPITAL LETTER L WITH DOT BELOW",
     "gSMALL LETTER L WITH DOT BELOWgCAPITAL LETTER L WITH DOT BELOW AND MACRON",
     "gSMALL LETTER L WITH DOT BELOW AND MACRONgCAPITAL LETTER L WITH LINE BELOW",
     "gSMALL LETTER L WITH LINE BELOWgCAPITAL LETTER L WITH CIRCUMFLEX BELOW",
     "gSMALL LETTER L WITH CIRCUMFLEX BELOWgCAPITAL LETTER M WITH ACUTE",
     "gSMALL LETTER M WITH ACUTEgCAPITAL LETTER M WITH DOT ABOVEgSMALL LETTER M WITH DOT ABOVE",
     "gCAPITAL LETTER M WITH DOT BELOWgSMALL LETTER M WITH DOT BELOW",
     "gCAPITAL LETTER N WITH DOT ABOVEgSMALL LETTER N WITH DOT ABOVE",
     "gCAPITAL LETTER N WITH DOT BELOWgSMALL LETTER N WITH DOT BELOW",
     "gCAPITAL LETTER N WITH LINE BELOWgSMALL LETTER N WITH LINE BELOW",
     "gCAPITAL LETTER N WITH CIRCUMFLEX BELOWgSMALL LETTER N WITH CIRCUMFLEX BELOW",
     "gCAPITAL LETTER O WITH TILDE AND ACUTEgSMALL LETTER O WITH TILDE AND ACUTE",
     "gCAPITAL LETTER O WITH TILDE AND DIAERESISgSMALL LETTER O WITH TILDE AND DIAERESIS",
     "gCAPITAL LETTER O WITH MACRON AND GRAVEgSMALL LETTER O WITH MACRON AND GRAVE",
     "gCAPITAL LETTER O WITH MACRON AND ACUTEgSMALL LETTER O WITH MACRON AND ACUTE",
     "gCAPITAL LETTER P WITH ACUTEgSMALL LETTER P WITH ACUTEgCAPITAL LETTER P WITH DOT ABOVE",
     "gSMALL LETTER P WITH DOT ABOVEgCAPITAL LETTER R WITH DOT ABOVE",
     "gSMALL LETTER R WITH DOT ABOVEgCAPITAL LETTER R WITH DOT BELOW",
     "gSMALL LETTER R WITH DOT BELOWgCAPITAL LETTER R WITH DOT BELOW AND MACRON",
     "gSMALL LETTER R WITH DOT BELOW AND MACRONgCAPITAL LETTER R WITH LINE BELOW",
     "gSMALL LETTER R WITH LINE BELOWgCAPITAL LETTER S WITH DOT ABOVE",
     "gSMALL LETTER S WITH DOT ABOVEgCAPITAL LETTER S WITH DOT BELOW",
     "gSMALL LETTER S WITH DOT BELOWgCAPITAL LETTER S WITH ACUTE AND DOT ABOVE",
     "gSMALL LETTER S WITH ACUTE AND DOT ABOVEgCAPITAL LETTER S WITH CARON AND DOT ABOVE",
     "gSMALL LETTER S WITH CARON AND DOT ABOVEgCAPITAL LETTER S WITH DOT BELOW AND DOT ABOVE",
     "gSMALL LETTER S WITH DOT BELOW AND DOT ABOVEgCAPITAL LETTER T WITH DOT ABOVE",
     "gSMALL LETTER T WITH DOT ABOVEgCAPITAL LETTER T WITH DOT BELOW",
     "gSMALL LETTER T WITH DOT BELOWgCAPITAL LETTER T WITH LINE BELOW",
     "gSMALL LETTER T WITH LINE BELOWgCAPITAL LETTER T WITH CIRCUMFLEX BELOW",
     "gSMALL LETTER T WITH CIRCUMFLEX BELOWgCAPITAL LETTER U WITH DIAERESIS BELOW",
     "gSMALL LETTER U WITH DIAERESIS BELOWgCAPITAL LETTER U WITH TILDE BELOW",
     "gSMALL LETTER U WITH TILDE BELOWgCAPITAL LETTER U WITH CIRCUMFLEX BELOW",
     "gSMALL LETTER U WITH CIRCUMFLEX BELOWgCAPITAL LETTER U WITH TILDE AND ACUTE",
     "gSMALL LETTER U WITH TILDE AND ACUTEgCAPITAL LETTER U WITH MACRON AND DIAERESIS",
     "gSMALL LETTER U WITH MACRON AND DIAERESISgCAPITAL LETTER V WITH TILDE",
     "gSMALL LETTER V WITH TILDEgCAPITAL LETTER V WITH DOT BELOWgSMALL LETTER V WITH DOT BELOW",
     "gCAPITAL LETTER W WITH GRAVEgSMALL LETTER W WITH GRAVEgCAPITAL LETTER W WITH ACUTE",
     "gSMALL LETTER W WITH ACUTEgCAPITAL LETTER W WITH DIAERESISgSMALL LETTER W WITH DIAERESIS",
     "gCAPITAL LETTER W WITH DOT ABOVEgSMALL LETTER W WITH DOT ABOVE",
     "gCAPITAL LETTER W WITH DOT BELOWgSMALL LETTER W WITH DOT BELOW",
     "gCAPITAL LETTER X WITH DOT ABOVEgSMALL LETTER X WITH DOT ABOVE",
     "gCAPITAL LETTER X WITH DIAERESISgSMALL LETTER X WITH DIAERESIS",
     "gCAPITAL LETTER Y WITH DOT ABOVEgSMALL LETTER Y WITH DOT ABOVE",
     "gCAPITAL LETTER Z WITH CIRCUMFLEXgSMALL LETTER Z WITH CIRCUMFLEX",
     "gCAPITAL LETTER Z WITH DOT BELOWgSMALL LETTER Z WITH DOT BELOW",
     "gCAPITAL LETTER Z WITH LINE BELOWgSMALL LETTER Z WITH LINE BELOWtH WITH LINE BELOW",
     "tT WITH DIAERESIStW WITH RING ABOVEtY WITH RING ABOVEtA WITH RIGHT HALF RING",
     "tLONG S WITH DOT ABOVE,IAGONAL STROKE+HIGH STROKEgCAPITAL LETTER SHARP S",
     "gSMALL LETTER DELTAgCAPITAL LETTER A WITH DOT BELOWgSMALL LETTER A WITH DOT BELOW",
     "gCAPITAL LETTER A WITH HOOK ABOVEgSMALL LETTER A WITH HOOK ABOVE",
     "gCAPITAL LETTER A WITH CIRCUMFLEX AND ACUTEgSMALL LETTER A WITH CIRCUMFLEX AND ACUTE",
     "gCAPITAL LETTER A WITH CIRCUMFLEX AND GRAVEgSMALL LETTER A WITH CIRCUMFLEX AND GRAVE",
     "gCAPITAL LETTER A WITH CIRCUMFLEX AND HOOK ABOVE",
     "gSMALL LETTER A WITH CIRCUMFLEX AND HOOK ABOVEgCAPITAL LETTER A WITH CIRCUMFLEX AND TILDE",
     "gSMALL LETTER A WITH CIRCUMFLEX AND TILDEgCAPITAL LETTER A WITH CIRCUMFLEX AND DOT BELOW",
     "gSMALL LETTER A WITH CIRCUMFLEX AND DOT BELOWgCAPITAL LETTER A WITH BREVE AND ACUTE",
     "gSMALL LETTER A WITH BREVE AND ACUTEgCAPITAL LETTER A WITH BREVE AND GRAVE",
     "gSMALL LETTER A WITH BREVE AND GRAVEgCAPITAL LETTER A WITH BREVE AND HOOK ABOVE",
     "gSMALL LETTER A WITH BREVE AND HOOK ABOVEgCAPITAL LETTER A WITH BREVE AND TILDE",
     "gSMALL LETTER A WITH BREVE AND TILDEgCAPITAL LETTER A WITH BREVE AND DOT BELOW",
     "gSMALL LETTER A WITH BREVE AND DOT BELOWgCAPITAL LETTER E WITH DOT BELOW",
     "gSMALL LETTER E WITH DOT BELOWgCAPITAL LETTER E WITH HOOK ABOVE",
     "gSMALL LETTER E WITH HOOK ABOVEgCAPITAL LETTER E WITH TILDEgSMALL LETTER E WITH TILDE",
     "gCAPITAL LETTER E WITH CIRCUMFLEX AND ACUTEgSMALL LETTER E WITH CIRCUMFLEX AND ACUTE",
     "gCAPITAL LETTER E WITH CIRCUMFLEX AND GRAVEgSMALL LETTER E WITH CIRCUMFLEX AND GRAVE",
     "gCAPITAL LETTER E WITH CIRCUMFLEX AND HOOK ABOVE",
     "gSMALL LETTER E WITH CIRCUMFLEX AND HOOK ABOVEgCAPITAL LETTER E WITH CIRCUMFLEX AND TILDE",
     "gSMALL LETTER E WITH CIRCUMFLEX AND TILDEgCAPITAL LETTER E WITH CIRCUMFLEX AND DOT BELOW",
     "gSMALL LETTER E WITH CIRCUMFLEX AND DOT BELOWgCAPITAL LETTER I WITH HOOK ABOVE",
     "gSMALL LETTER I WITH HOOK ABOVEgCAPITAL LETTER I WITH DOT BELOW",
     "gSMALL LETTER I WITH DOT BELOWgCAPITAL LETTER O WITH DOT BELOW",
     "gSMALL LETTER O WITH DOT BELOWgCAPITAL LETTER O WITH HOOK ABOVE",
     "gSMALL LETTER O WITH HOOK ABOVEgCAPITAL LETTER O WITH CIRCUMFLEX AND ACUTE",
     "gSMALL LETTER O WITH CIRCUMFLEX AND ACUTEgCAPITAL LETTER O WITH CIRCUMFLEX AND GRAVE",
     "gSMALL LETTER O WITH CIRCUMFLEX AND GRAVEgCAPITAL LETTER O WITH CIRCUMFLEX AND HOOK ABOVE",
     "gSMALL LETTER O WITH CIRCUMFLEX AND HOOK ABOVEgCAPITAL LETTER O WITH CIRCUMFLEX AND TILDE",
     "gSMALL LETTER O WITH CIRCUMFLEX AND TILDEgCAPITAL LETTER O WITH CIRCUMFLEX AND DOT BELOW",
     "gSMALL LETTER O WITH CIRCUMFLEX AND DOT BELOWgCAPITAL LETTER O WITH HORN AND ACUTE",
     "gSMALL LETTER O WITH HORN AND ACUTEgCAPITAL LETTER O WITH HORN AND GRAVE",
     "gSMALL LETTER O WITH HORN AND GRAVEgCAPITAL LETTER O WITH HORN AND HOOK ABOVE",
     "gSMALL LETTER O WITH HORN AND HOOK ABOVEgCAPITAL LETTER O WITH HORN AND TILDE",
     "gSMALL LETTER O WITH HORN AND TILDEgCAPITAL LETTER O WITH HORN AND DOT BELOW",
     "gSMALL LETTER O WITH HORN AND DOT BELOWgCAPITAL LETTER U WITH DOT BELOW",
     "gSMALL LETTER U WITH DOT BELOWgCAPITAL LETTER U WITH HOOK ABOVE",
     "gSMALL LETTER U WITH HOOK ABOVEgCAPITAL LETTER U WITH HORN AND ACUTE",
     "gSMALL LETTER U WITH HORN AND ACUTEgCAPITAL LETTER U WITH HORN AND GRAVE",
     "gSMALL LETTER U WITH HORN AND GRAVEgCAPITAL LETTER U WITH HORN AND HOOK ABOVE",
     "gSMALL LETTER U WITH HORN AND HOOK ABOVEgCAPITAL LETTER U WITH HORN AND TILDE",
     "gSMALL LETTER U WITH HORN AND TILDEgCAPITAL LETTER U WITH HORN AND DOT BELOW",
     "gSMALL LETTER U WITH HORN AND DOT BELOWgCAPITAL LETTER Y WITH GRAVE",
     "gSMALL LETTER Y WITH GRAVEgCAPITAL LETTER Y WITH DOT BELOWgSMALL LETTER Y WITH DOT BELOW",
     "gCAPITAL LETTER Y WITH HOOK ABOVEgSMALL LETTER Y WITH HOOK ABOVE",
     "gCAPITAL LETTER Y WITH TILDEgSMALL LETTER Y WITH TILDEgCAPITAL LETTER MIDDLE-WELSH LL",
     "gSMALL LETTER MIDDLE-WELSH LLgCAPITAL LETTER MIDDLE-WELSH VgSMALL LETTER MIDDLE-WELSH V",
     "gCAPITAL LETTER Y WITH LOOPgSMALL LETTER Y WITH LOOPaGREEK SMALL LETTER ALPHA WITH PSILI",
     "*DASIA*PSILI AND VARIA*DASIA AND VARIA*PSILI AND OXIA*DASIA AND OXIA*PSILI AND PERISPOMENI",
     "*DASIA AND PERISPOMENIgCAPITAL LETTER ALPHA WITH PSILI,DASIA,PSILI AND VARIA",
     ",DASIA AND VARIA,PSILI AND OXIA,DASIA AND OXIA,PSILI AND PERISPOMENI,DASIA AND PERISPOMENI",
     "gSMALL LETTER EPSILON WITH PSILI,DASIA,PSILI AND VARIA,DASIA AND VARIA,PSILI AND OXIA",
     ",DASIA AND OXIA"]),
   (0x1f18, [
     "aGREEK CAPITAL LETTER EPSILON WITH PSILI/DASIA/PSILI AND VARIA/DASIA AND VARIA",
     "/PSILI AND OXIA/DASIA AND OXIA"]),
   (0x1f20, [
     "aGREEK SMALL LETTER ETA WITH PSILI%DASIA%PSILI AND VARIA%DASIA AND VARIA%PSILI AND OXIA",
     "%DASIA AND OXIA%PSILI AND PERISPOMENI%DASIA AND PERISPOMENIgCAPITAL LETTER ETA WITH PSILI",
     "*DASIA*PSILI AND VARIA*DASIA AND VARIA*PSILI AND OXIA*DASIA AND OXIA*PSILI AND PERISPOMENI",
     "*DASIA AND PERISPOMENIgSMALL LETTER IOTA WITH PSILI&DASIA&PSILI AND VARIA&DASIA AND VARIA",
     "&PSILI AND OXIA&DASIA AND OXIA&PSILI AND PERISPOMENI&DASIA AND PERISPOMENI",
     "gCAPITAL LETTER IOTA WITH PSILI+DASIA+PSILI AND VARIA+DASIA AND VARIA+PSILI AND OXIA",
     "+DASIA AND OXIA+PSILI AND PERISPOMENI+DASIA AND PERISPOMENI",
     "gSMALL LETTER OMICRON WITH PSILI,DASIA,PSILI AND VARIA,DASIA AND VARIA,PSILI AND OXIA",
     ",DASIA AND OXIA"]),
   (0x1f48, [
     "aGREEK CAPITAL LETTER OMICRON WITH PSILI/DASIA/PSILI AND VARIA/DASIA AND VARIA",
     "/PSILI AND OXIA/DASIA AND OXIA"]),
   (0x1f50, [
     "aGREEK SMALL LETTER UPSILON WITH PSILI,DASIA,PSILI AND VARIA,DASIA AND VARIA",
     ",PSILI AND OXIA,DASIA AND OXIA,PSILI AND PERISPOMENI,DASIA AND PERISPOMENI"]),
   (0x1f59, ["aGREEK CAPITAL LETTER UPSILON WITH DASIA"]),
   (0x1f5b, ["aGREEK CAPITAL LETTER UPSILON WITH DASIA AND VARIA"]),
   (0x1f5d, ["aGREEK CAPITAL LETTER UPSILON WITH DASIA AND OXIA"]),
   (0x1f5f, [
     "aGREEK CAPITAL LETTER UPSILON WITH DASIA AND PERISPOMENIgSMALL LETTER OMEGA WITH PSILI",
     "*DASIA*PSILI AND VARIA*DASIA AND VARIA*PSILI AND OXIA*DASIA AND OXIA*PSILI AND PERISPOMENI",
     "*DASIA AND PERISPOMENIgCAPITAL LETTER OMEGA WITH PSILI,DASIA,PSILI AND VARIA",
     ",DASIA AND VARIA,PSILI AND OXIA,DASIA AND OXIA,PSILI AND PERISPOMENI,DASIA AND PERISPOMENI",
     "gSMALL LETTER ALPHA WITH VARIA*OXIAtEPSILON WITH VARIA,OXIAuTA WITH VARIA%OXIA",
     "tIOTA WITH VARIA&OXIAtOMICRON WITH VARIA,OXIAtUPSILON WITH VARIA,OXIAtOMEGA WITH VARIA",
     "*OXIA"]),
   (0x1f80, [
     "aGREEK SMALL LETTER ALPHA WITH PSILI AND YPOGEGRAMMENI*DASIA AND YPOGEGRAMMENI",
     "*PSILI AND VARIA AND YPOGEGRAMMENI*DASIA AND VARIA AND YPOGEGRAMMENI",
     "*PSILI AND OXIA AND YPOGEGRAMMENI*DASIA AND OXIA AND YPOGEGRAMMENI",
     "*PSILI AND PERISPOMENI AND YPOGEGRAMMENI*DASIA AND PERISPOMENI AND YPOGEGRAMMENI",
     "gCAPITAL LETTER ALPHA WITH PSILI AND PROSGEGRAMMENI,DASIA AND PROSGEGRAMMENI",
     ",PSILI AND VARIA AND PROSGEGRAMMENI,DASIA AND VARIA AND PROSGEGRAMMENI",
     ",PSILI AND OXIA AND PROSGEGRAMMENI,DASIA AND OXIA AND PROSGEGRAMMENI",
     ",PSILI AND PERISPOMENI AND PROSGEGRAMMENI,DASIA AND PERISPOMENI AND PROSGEGRAMMENI",
     "gSMALL LETTER ETA WITH PSILI AND YPOGEGRAMMENI%DASIA AND YPOGEGRAMMENI",
     "%PSILI AND VARIA AND YPOGEGRAMMENI%DASIA AND VARIA AND YPOGEGRAMMENI",
     "%PSILI AND OXIA AND YPOGEGRAMMENI%DASIA AND OXIA AND YPOGEGRAMMENI",
     "%PSILI AND PERISPOMENI AND YPOGEGRAMMENI%DASIA AND PERISPOMENI AND YPOGEGRAMMENI",
     "gCAPITAL LETTER ETA WITH PSILI AND PROSGEGRAMMENI*DASIA AND PROSGEGRAMMENI",
     "*PSILI AND VARIA AND PROSGEGRAMMENI*DASIA AND VARIA AND PROSGEGRAMMENI",
     "*PSILI AND OXIA AND PROSGEGRAMMENI*DASIA AND OXIA AND PROSGEGRAMMENI",
     "*PSILI AND PERISPOMENI AND PROSGEGRAMMENI*DASIA AND PERISPOMENI AND PROSGEGRAMMENI",
     "gSMALL LETTER OMEGA WITH PSILI AND YPOGEGRAMMENI*DASIA AND YPOGEGRAMMENI",
     "*PSILI AND VARIA AND YPOGEGRAMMENI*DASIA AND VARIA AND YPOGEGRAMMENI",
     "*PSILI AND OXIA AND YPOGEGRAMMENI*DASIA AND OXIA AND YPOGEGRAMMENI",
     "*PSILI AND PERISPOMENI AND YPOGEGRAMMENI*DASIA AND PERISPOMENI AND YPOGEGRAMMENI",
     "gCAPITAL LETTER OMEGA WITH PSILI AND PROSGEGRAMMENI,DASIA AND PROSGEGRAMMENI",
     ",PSILI AND VARIA AND PROSGEGRAMMENI,DASIA AND VARIA AND PROSGEGRAMMENI",
     ",PSILI AND OXIA AND PROSGEGRAMMENI,DASIA AND OXIA AND PROSGEGRAMMENI",
     ",PSILI AND PERISPOMENI AND PROSGEGRAMMENI,DASIA AND PERISPOMENI AND PROSGEGRAMMENI",
     "gSMALL LETTER ALPHA WITH VRACHY*MACRON*VARIA AND YPOGEGRAMMENI*YPOGEGRAMMENI",
     "*OXIA AND YPOGEGRAMMENI"]),
   (0x1fb6, [
     "aGREEK SMALL LETTER ALPHA WITH PERISPOMENI@ AND YPOGEGRAMMENI",
     "gCAPITAL LETTER ALPHA WITH VRACHY,MACRON,VARIA,OXIA,PROSGEGRAMMENIgKORONISgPROSGEGRAMMENI",
     "hSILIhERISPOMENIgDIALYTIKA AND PERISPOMENIgSMALL LETTER ETA WITH VARIA AND YPOGEGRAMMENI",
     "%YPOGEGRAMMENI%OXIA AND YPOGEGRAMMENI"]),
   (0x1fc6, [
     "aGREEK SMALL LETTER ETA WITH PERISPOMENI> AND YPOGEGRAMMENI",
     "gCAPITAL LETTER EPSILON WITH VARIA/OXIAwTA WITH VARIA*OXIA*PROSGEGRAMMENIgPSILI AND VARIA",
     "qOXIAqPERISPOMENIgSMALL LETTER IOTA WITH VRACHY&MACRON&DIALYTIKA AND VARIA_OXIA"]),
   (0x1fd6, [
     "aGREEK SMALL LETTER IOTA WITH PERISPOMENI&DIALYTIKA AND PERISPOMENI",
     "gCAPITAL LETTER IOTA WITH VRACHY+MACRON+VARIA+OXIA"]),
   (0x1fdd, [
     "aGREEK DASIA AND VARIAqOXIAqPERISPOMENIgSMALL LETTER UPSILON WITH VRACHY,MACRON",
     ",DIALYTIKA AND VARIA~ OXIAtRHO WITH PSILI%DASIAtUPSILON WITH PERISPOMENI",
     ",DIALYTIKA AND PERISPOMENIgCAPITAL LETTER UPSILON WITH VRACHY/MACRON/VARIA/OXIA",
     "vRHO WITH DASIAgDIALYTIKA AND VARIAuOXIAgVARIA"]),
   (0x1ff2, [
     "aGREEK SMALL LETTER OMEGA WITH VARIA AND YPOGEGRAMMENI*YPOGEGRAMMENI",
     "*OXIA AND YPOGEGRAMMENI"]),
   (0x1ff6, [
     "aGREEK SMALL LETTER OMEGA WITH PERISPOMENI@ AND YPOGEGRAMMENI",
     "gCAPITAL LETTER OMICRON WITH VARIA/OXIAxEGA WITH VARIA,OXIA,PROSGEGRAMMENIgOXIAgDASIA"])]

end TokenTemplate.Unicode
