import TokenTemplate.Unicode.Name.Run

/-!
# Names of symbols

The names that version 14 of the standard gives to characters:
punctuation, signs, arrows and technical symbols.
-/

namespace TokenTemplate.Unicode

/-- Runs of characters with their names. -/
def symbolsNames : List NameRun :=
  [(0x2000, [
     "aEN QUADbM QUADbN SPACEbM SPACEaTHREE-PER-EM SPACEaFOUR-PER-EM SPACEaSIX-PER-EM SPACE",
     "aFIGURE SPACEaPUNCTUATION SPACEaTHIN SPACEaHAIR SPACEaZERO WIDTH SPACElNON-JOINERlJOINER",
     "aLEFT-TO-RIGHT MARKaRIGHT-TO-LEFT MARKaHYPHENaNON-BREAKING HYPHENaFIGURE DASHaEN DASH",
     "bM DASHaHORIZONTAL BARaDOUBLE VERTICAL LINEhLOW LINEaLEFT SINGLE QUOTATION MARK",
     "aRIGHT SINGLE QUOTATION MARKaSINGLE LOW-9 QUOTATION MARKhHIGH-REVERSED-9 QUOTATION MARK",
     "aLEFT DOUBLE QUOTATION MARKaRIGHT DOUBLE QUOTATION MARKaDOUBLE LOW-9 QUOTATION MARK",
     "hHIGH-REVERSED-9 QUOTATION MARKbAGGERbOUBLE DAGGERaBULLETaTRIANGULAR BULLETaONE DOT LEADER",
     "aTWO DOT LEADERaHORIZONTAL ELLIPSISbYPHENATION POINTaLINE SEPARATORaPARAGRAPH SEPARATOR",
     "aLEFT-TO-RIGHT EMBEDDINGaRIGHT-TO-LEFT EMBEDDINGaPOP DIRECTIONAL FORMATTING",
     "aLEFT-TO-RIGHT OVERRIDEaRIGHT-TO-LEFT OVERRIDEaNARROW NO-BREAK SPACEaPER MILLE SIGN",
     "eTEN THOUSAND SIGNbRIMEaDOUBLE PRIMEaTRIPLE PRIMEaREVERSED PRIMEjDOUBLE PRIMEjTRIPLE PRIME",
     "aCARETaSINGLE LEFT-POINTING ANGLE QUOTATION MARKhRIGHT-POINTING ANGLE QUOTATION MARK",
     "aREFERENCE MARKaDOUBLE EXCLAMATION MARKaINTERROBANGaOVERLINEaUNDERTIEaCHARACTER TIE",
     "bARET INSERTION POINTaASTERISMaHYPHEN BULLETaFRACTION SLASHaLEFT SQUARE BRACKET WITH QUILL",
     "aRIGHT SQUARE BRACKET WITH QUILLaDOUBLE QUESTION MARKaQUESTION EXCLAMATION MARK",
     "aEXCLAMATION QUESTION MARKaTIRONIAN SIGN ETaREVERSED PILCROW SIGNaBLACK LEFTWARDS BULLET",
     "gRIGHTWARDS BULLETaLOW ASTERISKaREVERSED SEMICOLONaCLOSE UP",
     "aTWO ASTERISKS ALIGNED VERTICALLYaCOMMERCIAL MINUS SIGNaSWUNG DASHaINVERTED UNDERTIE",
     "aFLOWER PUNCTUATION MARKaTHREE DOT PUNCTUATIONaQUADRUPLE PRIMEaFOUR DOT PUNCTUATION",
     "bIVE DOT PUNCTUATIONaTWO DOT PUNCTUATIONaFOUR DOT MARKaDOTTED CROSSaTRICOLON",
     "aVERTICAL FOUR DOTSaMEDIUM MATHEMATICAL SPACEaWORD JOINERaFUNCTION APPLICATION",
     "aINVISIBLE TIMESkSEPARATORkPLUS"]),
   (0x2066, [
     "aLEFT-TO-RIGHT ISOLATEaRIGHT-TO-LEFT ISOLATEaFIRST STRONG ISOLATEaPOP DIRECTIONAL ISOLATE",
     "aINHIBIT SYMMETRIC SWAPPINGaACTIVATE SYMMETRIC SWAPPINGaINHIBIT ARABIC FORM SHAPING",
     "aACTIVATE ARABIC FORM SHAPINGaNATIONAL DIGIT SHAPESbOMINAL DIGIT SHAPESaSUPERSCRIPT ZERO",
     "mLATIN SMALL LETTER I"]),
   (0x2074, [
     "aSUPERSCRIPT FOURnIVEmSIXnEVENmEIGHTmNINEmPLUS SIGNmMINUSmEQUALS SIGNmLEFT PARENTHESIS",
     "mRIGHT PARENTHESISmLATIN SMALL LETTER NcBSCRIPT ZEROkONEkTWOlHREEkFOURlIVEkSIXlEVENkEIGHT",
     "kNINEkPLUS SIGNkMINUSkEQUALS SIGNkLEFT PARENTHESISkRIGHT PARENTHESIS"]),
   (0x2090, ["aLATIN SUBSCRIPT SMALL LETTER A&E&O&X&SCHWA&H&K&L&M&N&P&S&T"]),
   (0x20a0, [
     "aEURO-CURRENCY SIGNaCOLON SIGNbRUZEIRO SIGNaFRENCH FRANC SIGNaLIRA SIGNaMILL SIGN",
     "aNAIRA SIGNaPESETA SIGNaRUPEE SIGNaWON SIGNaNEW SHEQEL SIGNaDONG SIGNaEURO SIGNaKIP SIGN",
     "aTUGRIK SIGNaDRACHMA SIGNaGERMAN PENNY SIGNaPESO SIGNaGUARANI SIGNaAUSTRAL SIGN",
     "aHRYVNIA SIGNaCEDI SIGNaLIVRE TOURNOIS SIGNaSPESMILO SIGNaTENGE SIGNaINDIAN RUPEE SIGN",
     "aTURKISH LIRA SIGNaNORDIC MARK SIGNaMANAT SIGNaRUBLE SIGNaLARI SIGNaBITCOIN SIGNaSOM SIGN"]),
   (0x20d0, [
     "aCOMBINING LEFT HARPOON ABOVEkRIGHT HARPOON ABOVEkLONG VERTICAL LINE OVERLAY",
     "kSHORT VERTICAL LINE OVERLAYkANTICLOCKWISE ARROW ABOVEkCLOCKWISE ARROW ABOVE",
     "kLEFT ARROW ABOVEkRIGHT ARROW ABOVEmNG OVERLAYkCLOCKWISE RING OVERLAY",
     "kANTICLOCKWISE RING OVERLAYkTHREE DOTS ABOVEkFOUR DOTS ABOVEkENCLOSING CIRCLEuSQUARE",
     "uDIAMONDuCIRCLE BACKSLASHkLEFT RIGHT ARROW ABOVEkENCLOSING SCREENuKEYCAP",
     "uUPWARD POINTING TRIANGLEkREVERSE SOLIDUS OVERLAYkDOUBLE VERTICAL STROKE OVERLAY",
     "kANNUITY SYMBOLkTRIPLE UNDERDOTkWIDE BRIDGE ABOVEkLEFTWARDS ARROW OVERLAY",
     "lONG DOUBLE SOLIDUS OVERLAYkRIGHTWARDS HARPOON WITH BARB DOWNWARDS",
     "kLEFTWARDS HARPOON WITH BARB DOWNWARDSo ARROW BELOWkRIGHT ARROW BELOWkASTERISK ABOVE"]),
   (0x2100, [
     "aACCOUNT OFbDDRESSED TO THE SUBJECTaDOUBLE-STRUCK CAPITAL CbEGREE CELSIUS",
     "aCENTRE LINE SYMBOLbARE OFcDA UNAaEULER CONSTANTaSCRUPLEaDEGREE FAHRENHEITaSCRIPT SMALL G",
     "hCAPITAL HaBLACK-LETTER CAPITAL HaDOUBLE-STRUCK CAPITAL HaPLANCK CONSTANTp OVER TWO PI",
     "aSCRIPT CAPITAL IaBLACK-LETTER CAPITAL IaSCRIPT CAPITAL LhSMALL LaL B BAR SYMBOL",
     "aDOUBLE-STRUCK CAPITAL NaNUMERO SIGNaSOUND RECORDING COPYRIGHTbCRIPT CAPITAL P",
     "aDOUBLE-STRUCK CAPITAL PwQaSCRIPT CAPITAL RaBLACK-LETTER CAPITAL RaDOUBLE-STRUCK CAPITAL R",
     "aPRESCRIPTION TAKEaRESPONSEaSERVICE MARKaTELEPHONE SIGNbRADE MARK SIGNaVERSICLE",
     "aDOUBLE-STRUCK CAPITAL ZaOUNCE SIGNbHM SIGNaINVERTED OHM SIGNaBLACK-LETTER CAPITAL Z",
     "aTURNED GREEK SMALL LETTER IOTAaKELVIN SIGNaANGSTROM SIGNaSCRIPT CAPITAL B",
     "aBLACK-LETTER CAPITAL CaESTIMATED SYMBOLaSCRIPT SMALL EhCAPITAL EpFaTURNED CAPITAL F",
     "aSCRIPT CAPITAL MhSMALL OaALEF SYMBOLaBET SYMBOLaGIMEL SYMBOLaDALET SYMBOL",
     "aINFORMATION SOURCEaROTATED CAPITAL QaFACSIMILE SIGNaDOUBLE-STRUCK SMALL PIuGAMMA",
     "oCAPITAL GAMMAwPIoN-ARY SUMMATIONaTURNED SANS-SERIF CAPITAL G!L",
     "aREVERSED SANS-SERIF CAPITAL LaTURNED SANS-SERIF CAPITAL YaDOUBLE-STRUCK ITALIC CAPITAL D",
     "vSMALL D$E$I$JaPROPERTY LINEaTURNED AMPERSANDaPER SIGNaAKTIESELSKABaTURNED SMALL F",
     "aSYMBOL FOR SAMARITAN SOURCEaVULGAR FRACTION ONE SEVENTHuNINTHuTENTHvHIRDqTWO THIRDS",
     "qONE FIFTHqTWO FIFTHSrHREE FIFTHSqFOUR FIFTHSqONE SIXTHqFIVE SIXTHSqONE EIGHTH",
     "qTHREE EIGHTHSqFIVE EIGHTHSqSEVEN EIGHTHSaFRACTION NUMERATOR ONEaROMAN NUMERAL ONEoTWO",
     "pHREEoFOURpIVEoSIXpEVENoEIGHToNINEoTENoELEVENoTWELVEoFIFTYoONE HUNDREDoFIVE HUNDRED",
     "oONE THOUSANDaSMALL ROMAN NUMERAL ONEuTWOvHREEuFOURvIVEuSIXvEVENuEIGHTuNINEuTENuELEVEN",
     "uTWELVEuFIFTYuONE HUNDREDuFIVE HUNDREDuONE THOUSANDaROMAN NUMERAL ONE THOUSAND C D",
     "oFIVE THOUSANDoTEN THOUSANDoREVERSED ONE HUNDREDaLATIN SMALL LETTER REVERSED C",
     "aROMAN NUMERAL SIX LATE FORMoFIFTY EARLY FORMuTHOUSANDoONE HUNDRED THOUSAND",
     "aVULGAR FRACTION ZERO THIRDSaTURNED DIGIT TWOoHREE"]),
   (0x2190, [
     "aLEFTWARDS ARROWaUPWARDS ARROWaRIGHTWARDS ARROWaDOWNWARDS ARROWaLEFT RIGHT ARROW",
     "aUP DOWN ARROWaNORTH WEST ARROWgEAST ARROWaSOUTH EAST ARROWgWEST ARROW",
     "aLEFTWARDS ARROW WITH STROKEaRIGHTWARDS ARROW WITH STROKEaLEFTWARDS WAVE ARROW",
     "aRIGHTWARDS WAVE ARROWaLEFTWARDS TWO HEADED ARROWaUPWARDS TWO HEADED ARROW",
     "aRIGHTWARDS TWO HEADED ARROWaDOWNWARDS TWO HEADED ARROWaLEFTWARDS ARROW WITH TAIL",
     "aRIGHTWARDS ARROW WITH TAILaLEFTWARDS ARROW FROM BARaUPWARDS ARROW FROM BAR",
     "aRIGHTWARDS ARROW FROM BARaDOWNWARDS ARROW FROM BARaUP DOWN ARROW WITH BASE",
     "aLEFTWARDS ARROW WITH HOOKaRIGHTWARDS ARROW WITH HOOKaLEFTWARDS ARROW WITH LOOP",
     "aRIGHTWARDS ARROW WITH LOOPaLEFT RIGHT WAVE ARROWlARROW WITH STROKEaDOWNWARDS ZIGZAG ARROW",
     "aUPWARDS ARROW WITH TIP LEFTWARDSxRIGHTWARDSaDOWNWARDS ARROW WITH TIP LEFTWARDSzRIGHTWARDS",
     "aRIGHTWARDS ARROW WITH CORNER DOWNWARDSaDOWNWARDS ARROW WITH CORNER LEFTWARDS",
     "aANTICLOCKWISE TOP SEMICIRCLE ARROWaCLOCKWISE TOP SEMICIRCLE ARROW",
     "aNORTH WEST ARROW TO LONG BARaLEFTWARDS ARROW TO BAR OVER RIGHTWARDS ARROW TO BAR",
     "aANTICLOCKWISE OPEN CIRCLE ARROWaCLOCKWISE OPEN CIRCLE ARROW",
     "aLEFTWARDS HARPOON WITH BARB UPWARDS%DOWNWARDSaUPWARDS HARPOON WITH BARB RIGHTWARDS",
     "!LEFTWARDSaRIGHTWARDS HARPOON WITH BARB UPWARDS&DOWNWARDS",
     "aDOWNWARDS HARPOON WITH BARB RIGHTWARDS%LEFTWARDSaRIGHTWARDS ARROW OVER LEFTWARDS ARROW",
     "aUPWARDS ARROW LEFTWARDS OF DOWNWARDS ARROWaLEFTWARDS ARROW OVER RIGHTWARDS ARROW",
     "kPAIRED ARROWSaUPWARDS PAIRED ARROWSaRIGHTWARDS PAIRED ARROWSaDOWNWARDS PAIRED ARROWS",
     "aLEFTWARDS HARPOON OVER RIGHTWARDS HARPOONaRIGHTWARDS HARPOON OVER LEFTWARDS HARPOON",
     "aLEFTWARDS DOUBLE ARROW WITH STROKEe RIGHT DOUBLE ARROW WITH STROKE",
     "aRIGHTWARDS DOUBLE ARROW WITH STROKEaLEFTWARDS DOUBLE ARROWaUPWARDS DOUBLE ARROW",
     "aRIGHTWARDS DOUBLE ARROWaDOWNWARDS DOUBLE ARROWaLEFT RIGHT DOUBLE ARROW",
     "aUP DOWN DOUBLE ARROWaNORTH WEST DOUBLE ARROWgEAST DOUBLE ARROWaSOUTH EAST DOUBLE ARROW",
     "gWEST DOUBLE ARROWaLEFTWARDS TRIPLE ARROWaRIGHTWARDS TRIPLE ARROWaLEFTWARDS SQUIGGLE ARROW",
     "aRIGHTWARDS SQUIGGLE ARROWaUPWARDS ARROW WITH DOUBLE STROKE",
     "aDOWNWARDS ARROW WITH DOUBLE STROKEaLEFTWARDS DASHED ARROWaUPWARDS DASHED ARROW",
     "aRIGHTWARDS DASHED ARROWaDOWNWARDS DASHED ARROWaLEFTWARDS ARROW TO BAR",
     "aRIGHTWARDS ARROW TO BARaLEFTWARDS WHITE ARROWaUPWARDS WHITE ARROWaRIGHTWARDS WHITE ARROW",
     "aDOWNWARDS WHITE ARROWaUPWARDS WHITE ARROW FROM BARuON PEDESTAL+ WITH HORIZONTAL BAR",
     "<VERTICAL BARoDOUBLE ARROW! ON PEDESTALaRIGHTWARDS WHITE ARROW FROM WALL",
     "aNORTH WEST ARROW TO CORNERaSOUTH EAST ARROW TO CORNERaUP DOWN WHITE ARROW",
     "aRIGHT ARROW WITH SMALL CIRCLEaDOWNWARDS ARROW LEFTWARDS OF UPWARDS ARROW",
     "aTHREE RIGHTWARDS ARROWSaLEFTWARDS ARROW WITH VERTICAL STROKE",
     "aRIGHTWARDS ARROW WITH VERTICAL STROKEaLEFT RIGHT ARROW WITH VERTICAL STROKE",
     "eWARDS ARROW WITH DOUBLE VERTICAL STROKEaRIGHTWARDS ARROW WITH DOUBLE VERTICAL STROKE",
     "aLEFT RIGHT ARROW WITH DOUBLE VERTICAL STROKEeWARDS OPEN-HEADED ARROW",
     "aRIGHTWARDS OPEN-HEADED ARROWaLEFT RIGHT OPEN-HEADED ARROWaFOR ALLaCOMPLEMENT",
     "aPARTIAL DIFFERENTIALaTHERE EXISTSgDOES NOT EXISTaEMPTY SETaINCREMENTaNABLAaELEMENT OF",
     "aNOT AN ELEMENT OFaSMALL ELEMENT OFaCONTAINS AS MEMBERaDOES NOT CONTAIN AS MEMBER",
     "aSMALL CONTAINS AS MEMBERaEND OF PROOFaN-ARY PRODUCTgCOPRODUCTgSUMMATIONaMINUS SIGN",
     "f-OR-PLUS SIGNaDOT PLUSbIVISION SLASHaSET MINUSaASTERISK OPERATORaRING OPERATOR",
     "aBULLET OPERATORaSQUARE ROOTaCUBE ROOTaFOURTH ROOTaPROPORTIONAL TOaINFINITYaRIGHT ANGLE",
     "aANGLEaMEASURED ANGLEaSPHERICAL ANGLEaDIVIDESbOES NOT DIVIDEaPARALLEL TOaNOT PARALLEL TO",
     "aLOGICAL ANDiORaINTERSECTIONaUNIONaINTEGRALaDOUBLE INTEGRALaTRIPLE INTEGRAL",
     "aCONTOUR INTEGRALaSURFACE INTEGRALaVOLUME INTEGRALaCLOCKWISE INTEGRALkCONTOUR INTEGRAL",
     "aANTICLOCKWISE CONTOUR INTEGRALaTHEREFOREaBECAUSEaRATIOaPROPORTIONaDOT MINUSaEXCESS",
     "aGEOMETRIC PROPORTIONaHOMOTHETICaTILDE OPERATORaREVERSED TILDEaINVERTED LAZY SaSINE WAVE",
     "aWREATH PRODUCTaNOT TILDEaMINUS TILDEaASYMPTOTICALLY EQUAL TOaNOT ASYMPTOTICALLY EQUAL TO",
     "aAPPROXIMATELY EQUAL TOoBUT NOT ACTUALLY EQUAL TO",
     "aNEITHER APPROXIMATELY NOR ACTUALLY EQUAL TOaALMOST EQUAL TOaNOT ALMOST EQUAL TO",
     "aALMOST EQUAL OR EQUAL TOaTRIPLE TILDEaALL EQUAL TOaEQUIVALENT TO",
     "aGEOMETRICALLY EQUIVALENT TOaDIFFERENCE BETWEENaAPPROACHES THE LIMIT",
     "aGEOMETRICALLY EQUAL TOaAPPROXIMATELY EQUAL TO OR THE IMAGE OF",
     "aIMAGE OF OR APPROXIMATELY EQUAL TOaCOLON EQUALSaEQUALS COLONaRING IN EQUAL TOfEQUAL TO",
     "aCORRESPONDS TOaESTIMATESbQUIANGULAR TOaSTAR EQUALSaDELTA EQUAL TOaEQUAL TO BY DEFINITION",
     "aMEASURED BYaQUESTIONED EQUAL TOaNOT EQUAL TOaIDENTICAL TOaNOT IDENTICAL TO",
     "aSTRICTLY EQUIVALENT TOaLESS-THAN OR EQUAL TOaGREATER-THAN OR EQUAL TO",
     "aLESS-THAN OVER EQUAL TOaGREATER-THAN OVER EQUAL TOaLESS-THAN BUT NOT EQUAL TO",
     "aGREATER-THAN BUT NOT EQUAL TOaMUCH LESS-THANfGREATER-THANaBETWEENaNOT EQUIVALENT TO",
     "eLESS-THANeGREATER-THANbEITHER LESS-THAN NOR EQUAL TOiGREATER-THAN NOR EQUAL TO",
     "aLESS-THAN OR EQUIVALENT TOaGREATER-THAN OR EQUIVALENT TO",
     "aNEITHER LESS-THAN NOR EQUIVALENT TOiGREATER-THAN NOR EQUIVALENT TO",
     "aLESS-THAN OR GREATER-THANaGREATER-THAN OR LESS-THANaNEITHER LESS-THAN NOR GREATER-THAN",
     "iGREATER-THAN NOR LESS-THANaPRECEDESaSUCCEEDSaPRECEDES OR EQUAL TOaSUCCEEDS OR EQUAL TO",
     "aPRECEDES OR EQUIVALENT TOaSUCCEEDS OR EQUIVALENT TOaDOES NOT PRECEDEjSUCCEEDaSUBSET OF",
     "cPERSET OFaNOT A SUBSET OFiPERSET OFaSUBSET OF OR EQUAL TOcPERSET OF OR EQUAL TO",
     "aNEITHER A SUBSET OF NOR EQUAL TOmPERSET OF NOR EQUAL TOaSUBSET OF WITH NOT EQUAL TO",
     "cPERSET OF WITH NOT EQUAL TOaMULTISETi MULTIPLICATIONjUNIONaSQUARE IMAGE OFhORIGINAL OF",
     "hIMAGE OF OR EQUAL TOhORIGINAL OF OR EQUAL TOhCAPiUPaCIRCLED PLUSiMINUSiTIMES",
     "iDIVISION SLASHjOT OPERATORiRING OPERATORiASTERISK OPERATORiEQUALSiDASHaSQUARED PLUSiMINUS",
     "iTIMESiDOT OPERATORaRIGHT TACKaLEFT TACKaDOWN TACKaUP TACKaASSERTIONaMODELSaTRUEaFORCES",
     "aTRIPLE VERTICAL BAR RIGHT TURNSTILEaDOUBLE VERTICAL BAR DOUBLE RIGHT TURNSTILE",
     "cES NOT PROVEaNOT TRUEaDOES NOT FORCEaNEGATED DOUBLE VERTICAL BAR DOUBLE RIGHT TURNSTILE",
     "aPRECEDES UNDER RELATIONaSUCCEEDS UNDER RELATIONaNORMAL SUBGROUP OF",
     "aCONTAINS AS NORMAL SUBGROUPaNORMAL SUBGROUP OF OR EQUAL TO",
     "aCONTAINS AS NORMAL SUBGROUP OR EQUAL TOaORIGINAL OFaIMAGE OFaMULTIMAP",
     "aHERMITIAN CONJUGATE MATRIXaINTERCALATEaXORaNANDbORaRIGHT ANGLE WITH ARCgTRIANGLE",
     "aN-ARY LOGICAL ANDoORgINTERSECTIONgUNIONaDIAMOND OPERATORbOT OPERATORaSTAR OPERATOR",
     "aDIVISION TIMESaBOWTIEaLEFT NORMAL FACTOR SEMIDIRECT PRODUCT",
     "aRIGHT NORMAL FACTOR SEMIDIRECT PRODUCTaLEFT SEMIDIRECT PRODUCTaRIGHT SEMIDIRECT PRODUCT",
     "bEVERSED TILDE EQUALSaCURLY LOGICAL ORoANDaDOUBLE SUBSETjPERSEThINTERSECTIONhUNION",
     "aPITCHFORKaEQUAL AND PARALLEL TOaLESS-THAN WITH DOTaGREATER-THAN WITH DOT",
     "aVERY MUCH LESS-THANkGREATER-THANaLESS-THAN EQUAL TO OR GREATER-THAN",
     "aGREATER-THAN EQUAL TO OR LESS-THANaEQUAL TO OR LESS-THANmGREATER-THANmPRECEDESmSUCCEEDS",
     "aDOES NOT PRECEDE OR EQUALjSUCCEED OR EQUALaNOT SQUARE IMAGE OF OR EQUAL TO",
     "lORIGINAL OF OR EQUAL TOaSQUARE IMAGE OF OR NOT EQUAL TOhORIGINAL OF OR NOT EQUAL TO",
     "aLESS-THAN BUT NOT EQUIVALENT TOaGREATER-THAN BUT NOT EQUIVALENT TO",
     "aPRECEDES BUT NOT EQUIVALENT TOaSUCCEEDS BUT NOT EQUIVALENT TOaNOT NORMAL SUBGROUP OF",
     "aDOES NOT CONTAIN AS NORMAL SUBGROUPaNOT NORMAL SUBGROUP OF OR EQUAL TO",
     "aDOES NOT CONTAIN AS NORMAL SUBGROUP OR EQUALaVERTICAL ELLIPSIS",
     "aMIDLINE HORIZONTAL ELLIPSISaUP RIGHT DIAGONAL ELLIPSISaDOWN RIGHT DIAGONAL ELLIPSIS",
     "aELEMENT OF WITH LONG HORIZONTAL STROKEqVERTICAL BAR AT END OF HORIZONTAL STROKE",
     "aSMALL ELEMENT OF WITH VERTICAL BAR AT END OF HORIZONTAL STROKEaELEMENT OF WITH DOT ABOVE",
     "qOVERBARaSMALL ELEMENT OF WITH OVERBARaELEMENT OF WITH UNDERBARqTWO HORIZONTAL STROKES",
     "aCONTAINS WITH LONG HORIZONTAL STROKEoVERTICAL BAR AT END OF HORIZONTAL STROKE",
     "aSMALL CONTAINS WITH VERTICAL BAR AT END OF HORIZONTAL STROKEaCONTAINS WITH OVERBAR",
     "aSMALL CONTAINS WITH OVERBARaZ NOTATION BAG MEMBERSHIPaDIAMETER SIGNaELECTRIC ARROWaHOUSE",
     "aUP ARROWHEADaDOWN ARROWHEADaPROJECTIVEbERSPECTIVEaWAVY LINEaLEFT CEILINGaRIGHT CEILING",
     "aLEFT FLOORaRIGHT FLOORaBOTTOM RIGHT CROPhLEFT CROPaTOP RIGHT CROPeLEFT CROP",
     "aREVERSED NOT SIGNaSQUARE LOZENGEaARCaSEGMENTcCTORaTELEPHONE RECORDERaPOSITION INDICATOR",
     "aVIEWDATA SQUAREaPLACE OF INTEREST SIGNaTURNED NOT SIGNaWATCHaHOURGLASSaTOP LEFT CORNER",
     "eRIGHT CORNERaBOTTOM LEFT CORNERhRIGHT CORNERaTOP HALF INTEGRALaBOTTOM HALF INTEGRALaFROWN",
     "aSMILEaUP ARROWHEAD BETWEEN TWO HORIZONTAL BARSaOPTION KEYaERASE TO THE RIGHT",
     "aX IN A RECTANGLE BOXaKEYBOARDaLEFT-POINTING ANGLE BRACKETaRIGHT-POINTING ANGLE BRACKET",
     "aERASE TO THE LEFTaBENZENE RINGaCYLINDRICITYaALL AROUND-PROFILEaSYMMETRYaTOTAL RUNOUT",
     "aDIMENSION ORIGINaCONICAL TAPERaSLOPEaCOUNTERBOREhSINKaAPL FUNCTIONAL SYMBOL I-BEAM",
     "wSQUISH QUADwQUAD EQUAL$DIVIDE&AMOND$JOT$CIRCLEwCIRCLE STILE&JOTwSLASH BARwBACKSLASH BAR",
     "wQUAD SLASH$BACKSLASH$LESS-THAN$GREATER-THANwLEFTWARDS VANEwRIGHTWARDS VANE",
     "wQUAD LEFTWARDS ARROW$RIGHTWARDS ARROWwCIRCLE BACKSLASHwDOWN TACK UNDERBARxELTA STILE",
     "wQUAD DOWN CARET%ELTAwDOWN TACK JOTwUPWARDS VANEwQUAD UPWARDS ARROWwUP TACK OVERBAR",
     "wDEL STILEwQUAD UP CARET$DELwUP TACK JOTwDOWNWARDS VANEwQUAD DOWNWARDS ARROWyOTE UNDERBAR",
     "wDELTA UNDERBARxIAMOND UNDERBARwJOT UNDERBARwCIRCLE UNDERBARwUP SHOE JOTwQUOTE QUAD",
     "wCIRCLE STARwQUAD COLONwUP TACK DIAERESISwDEL DIAERESISwSTAR DIAERESISwJOT DIAERESIS",
     "wCIRCLE DIAERESISwDOWN SHOE STILEwLEFT SHOE STILEwTILDE DIAERESISwGREATER-THAN DIAERESIS",
     "wCOMMA BARwDEL TILDEwZILDEwSTILE TILDExEMICOLON UNDERBARwQUAD NOT EQUAL$QUESTION",
     "wDOWN CARET TILDEwUP CARET TILDEwIOTAwRHOwOMEGAwALPHA UNDERBARwEPSILON UNDERBAR",
     "wIOTA UNDERBARwOMEGA UNDERBARwALPHAaNOT CHECK MARKaRIGHT ANGLE WITH DOWNWARDS ZIGZAG ARROW",
     "aSHOULDERED OPEN BOXaBELL SYMBOLaVERTICAL LINE WITH MIDDLE DOTaINSERTION SYMBOL",
     "aCONTINUOUS UNDERLINE SYMBOLaDISCONTINUOUS UNDERLINE SYMBOLaEMPHASIS SYMBOL",
     "aCOMPOSITION SYMBOLaWHITE SQUARE WITH CENTRE VERTICAL LINEaENTER SYMBOL",
     "aALTERNATIVE KEY SYMBOLaHELM SYMBOLaCIRCLED HORIZONTAL BAR WITH NOTCHiTRIANGLE DOWN",
     "aBROKEN CIRCLE WITH NORTHWEST ARROWaUNDO SYMBOLaMONOSTABLE SYMBOLaHYSTERESIS SYMBOL",
     "aOPEN-CIRCUIT-OUTPUT H-TYPE SYMBOLuL-TYPE SYMBOLaPASSIVE-PULL-DOWN-OUTPUT SYMBOL",
     "nUP-OUTPUT SYMBOLaDIRECT CURRENT SYMBOL FORM TWOaSOFTWARE-FUNCTION SYMBOL",
     "aAPL FUNCTIONAL SYMBOL QUADaDECIMAL SEPARATOR KEY SYMBOLaPREVIOUS PAGEaNEXT PAGE",
     "aPRINT SCREEN SYMBOLaCLEAR SCREEN SYMBOLaLEFT PARENTHESIS UPPER HOOKrEXTENSIONrLOWER HOOK",
     "aRIGHT PARENTHESIS UPPER HOOKsEXTENSIONsLOWER HOOKaLEFT SQUARE BRACKET UPPER CORNER",
     "uEXTENSIONuLOWER CORNERaRIGHT SQUARE BRACKET UPPER CORNERvEXTENSIONvLOWER CORNER",
     "aLEFT CURLY BRACKET UPPER HOOKtMIDDLE PIECEtLOWER HOOKaCURLY BRACKET EXTENSION",
     "aRIGHT CURLY BRACKET UPPER HOOKuMIDDLE PIECEuLOWER HOOKaINTEGRAL EXTENSION",
     "aHORIZONTAL LINE EXTENSIONaUPPER LEFT OR LOWER RIGHT CURLY BRACKET SECTION",
     "gRIGHT OR LOWER LEFT CURLY BRACKET SECTIONaSUMMATION TOPkBOTTOMaTOP SQUARE BRACKET",
     "aBOTTOM SQUARE BRACKETv OVER TOP SQUARE BRACKETaRADICAL SYMBOL BOTTOM",
     "aLEFT VERTICAL BOX LINEaRIGHT VERTICAL BOX LINEaHORIZONTAL SCAN LINE-1v3v7v9",
     "aDENTISTRY SYMBOL LIGHT VERTICAL AND TOP RIGHT;BOTTOM RIGHT,WITH CIRCLE",
     "xDOWN AND HORIZONTAL WITH CIRCLExUP AND HORIZONTAL WITH CIRCLExVERTICAL WITH TRIANGLE",
     "xDOWN AND HORIZONTAL WITH TRIANGLExUP AND HORIZONTAL WITH TRIANGLExVERTICAL AND WAVE",
     "xDOWN AND HORIZONTAL WITH WAVExUP AND HORIZONTAL WITH WAVExDOWN AND HORIZONTAL",
     "xUP AND HORIZONTALxVERTICAL AND TOP LEFT;BOTTOM LEFTaSQUARE FOOTaRETURN SYMBOL",
     "aEJECT SYMBOLaVERTICAL LINE EXTENSIONaMETRICAL BREVEjLONG OVER SHORTjSHORT OVER LONG",
     "jLONG OVER TWO SHORTSjTWO SHORTS OVER LONGuJOINEDkRISEMEkETRASEMEjPENTASEMEaEARTH GROUND",
     "aFUSEaTOP PARENTHESISaBOTTOM PARENTHESISaTOP CURLY BRACKETaBOTTOM CURLY BRACKET",
     "aTOP TORTOISE SHELL BRACKETaBOTTOM TORTOISE SHELL BRACKETaWHITE TRAPEZIUM",
     "aBENZENE RING WITH CIRCLEaSTRAIGHTNESSaFLATNESSaAC CURRENTaELECTRICAL INTERSECTION",
     "aDECIMAL EXPONENT SYMBOLaBLACK RIGHT-POINTING DOUBLE TRIANGLE",
     "gLEFT-POINTING DOUBLE TRIANGLEgUP-POINTING DOUBLE TRIANGLEgDOWN-POINTING DOUBLE TRIANGLE",
     "gRIGHT-POINTING DOUBLE TRIANGLE WITH VERTICAL BAR",
     "gLEFT-POINTING DOUBLE TRIANGLE WITH VERTICAL BAR",
     "gRIGHT-POINTING TRIANGLE WITH DOUBLE VERTICAL BARaALARM CLOCKaSTOPWATCHaTIMER CLOCK",
     "aHOURGLASS WITH FLOWING SANDaBLACK MEDIUM LEFT-POINTING TRIANGLEnRIGHT-POINTING TRIANGLE",
     "nUP-POINTING TRIANGLEnDOWN-POINTING TRIANGLEaDOUBLE VERTICAL BARaBLACK SQUARE FOR STOP",
     "gCIRCLE FOR RECORDaPOWER SYMBOLgON-OFF SYMBOLi SYMBOLgSLEEP SYMBOLaOBSERVER EYE SYMBOL",
     "aSYMBOL FOR NULLlSTART OF HEADINGuTEXTlEND OF TEXTtRANSMISSIONnQUIRYlACKNOWLEDGElBELL",
     "mACKSPACElHORIZONTAL TABULATIONlLINE FEEDlVERTICAL TABULATIONlFORM FEEDlCARRIAGE RETURN",
     "lSHIFT OUTrINlDATA LINK ESCAPEmEVICE CONTROL ONE!TWO$HREE!FOURlNEGATIVE ACKNOWLEDGE",
     "lSYNCHRONOUS IDLElEND OF TRANSMISSION BLOCKlCANCELlEND OF MEDIUMlSUBSTITUTElESCAPE",
     "lFILE SEPARATORlGROUP SEPARATORlRECORD SEPARATORlUNIT SEPARATORlSPACElDELETEaBLANK SYMBOL",
     "aOPEN BOXaSYMBOL FOR NEWLINElDELETE FORM TWOlSUBSTITUTE FORM TWO"]),
   (0x2440, [
     "aOCR HOOKeCHAIReFORKeINVERTED FORKeBELT BUCKLEfOW TIEfRANCH BANK IDENTIFICATION",
     "eAMOUNT OF CHECKeDASHeCUSTOMER ACCOUNT NUMBEReDOUBLE BACKSLASH"]),
   (0x2460, [
     "aCIRCLED DIGIT ONEoTWOpHREEoFOURpIVEoSIXpEVENoEIGHToNINEiNUMBER TENpELEVENpTWELVEqHIRTEEN",
     "pFOURTEENqIFTEENpSIXTEENqEVENTEENpEIGHTEENpNINETEENpTWENTYaPARENTHESIZED DIGIT ONEuTWO",
     "vHREEuFOURvIVEuSIXvEVENuEIGHTuNINEoNUMBER TENvELEVENvTWELVEwHIRTEENvFOURTEENwIFTEEN",
     "vSIXTEENwEVENTEENvEIGHTEENvNINETEENvTWENTYaDIGIT ONE FULL STOPgTWO FULL STOP",
     "hHREE FULL STOPgFOUR FULL STOPhIVE FULL STOPgSIX FULL STOPhEVEN FULL STOPgEIGHT FULL STOP",
     "gNINE FULL STOPaNUMBER TEN FULL STOPhELEVEN FULL STOPhTWELVE FULL STOPiHIRTEEN FULL STOP",
     "hFOURTEEN FULL STOPiIFTEEN FULL STOPhSIXTEEN FULL STOPiEVENTEEN FULL STOP",
     "hEIGHTEEN FULL STOPhNINETEEN FULL STOPhTWENTY FULL STOPaPARENTHESIZED LATIN SMALL LETTER A",
     ".B.C.D.E.F.G.H.I.J.K.L.M.N.O.P.Q.R.S.T.U.V.W.X.Y.ZaCIRCLED LATIN CAPITAL LETTER A&B&C&D&E",
     "&F&G&H&I&J&K&L&M&N&O&P&Q&R&S&T&U&V&W&X&Y&ZoSMALL LETTER A$B$C$D$E$F$G$H$I$J$K$L$M$N$O$P$Q",
     "$R$S$T$U$V$W$X$Y$ZiDIGIT ZEROaNEGATIVE CIRCLED NUMBER ELEVENyTWELVEzHIRTEENyFOURTEEN",
     "zIFTEENySIXTEENzEVENTEENyEIGHTEENyNINETEENyTWENTYaDOUBLE CIRCLED DIGIT ONEvTWOwHREEvFOUR",
     "wIVEvSIXwEVENvEIGHTvNINEpNUMBER TENaNEGATIVE CIRCLED DIGIT ZERO",
     "aBOX DRAWINGS LIGHT HORIZONTALnHEAVY HORIZONTALnLIGHT VERTICALnHEAVY VERTICAL",
     "nLIGHT TRIPLE DASH HORIZONTALnHEAVY TRIPLE DASH HORIZONTALnLIGHT TRIPLE DASH VERTICAL",
     "nHEAVY TRIPLE DASH VERTICALnLIGHT QUADRUPLE DASH HORIZONTAL",
     "nHEAVY QUADRUPLE DASH HORIZONTALnLIGHT QUADRUPLE DASH VERTICAL",
     "nHEAVY QUADRUPLE DASH VERTICALnLIGHT DOWN AND RIGHTnDOWN LIGHT AND RIGHT HEAVY",
     "sHEAVY AND RIGHT LIGHTnHEAVY DOWN AND RIGHTnLIGHT DOWN AND LEFTnDOWN LIGHT AND LEFT HEAVY",
     "sHEAVY AND LEFT LIGHTnHEAVY DOWN AND LEFTnLIGHT UP AND RIGHTnUP LIGHT AND RIGHT HEAVY",
     "qHEAVY AND RIGHT LIGHTnHEAVY UP AND RIGHTnLIGHT UP AND LEFTnUP LIGHT AND LEFT HEAVY",
     "qHEAVY AND LEFT LIGHTnHEAVY UP AND LEFTnLIGHT VERTICAL AND RIGHT",
     "nVERTICAL LIGHT AND RIGHT HEAVYnUP HEAVY AND RIGHT DOWN LIGHT",
     "nDOWN HEAVY AND RIGHT UP LIGHTnVERTICAL HEAVY AND RIGHT LIGHT",
     "nDOWN LIGHT AND RIGHT UP HEAVYnUP LIGHT AND RIGHT DOWN HEAVYnHEAVY VERTICAL AND RIGHT",
     "nLIGHT VERTICAL AND LEFTnVERTICAL LIGHT AND LEFT HEAVYnUP HEAVY AND LEFT DOWN LIGHT",
     "nDOWN HEAVY AND LEFT UP LIGHTnVERTICAL HEAVY AND LEFT LIGHTnDOWN LIGHT AND LEFT UP HEAVY",
     "nUP LIGHT AND LEFT DOWN HEAVYnHEAVY VERTICAL AND LEFTnLIGHT DOWN AND HORIZONTAL",
     "oEFT HEAVY AND RIGHT DOWN LIGHTnRIGHT HEAVY AND LEFT DOWN LIGHT",
     "nDOWN LIGHT AND HORIZONTAL HEAVYsHEAVY AND HORIZONTAL LIGHT",
     "nRIGHT LIGHT AND LEFT DOWN HEAVYnLEFT LIGHT AND RIGHT DOWN HEAVYnHEAVY DOWN AND HORIZONTAL",
     "nLIGHT UP AND HORIZONTALoEFT HEAVY AND RIGHT UP LIGHTnRIGHT HEAVY AND LEFT UP LIGHT",
     "nUP LIGHT AND HORIZONTAL HEAVYqHEAVY AND HORIZONTAL LIGHTnRIGHT LIGHT AND LEFT UP HEAVY",
     "nLEFT LIGHT AND RIGHT UP HEAVYnHEAVY UP AND HORIZONTALnLIGHT VERTICAL AND HORIZONTAL",
     "oEFT HEAVY AND RIGHT VERTICAL LIGHTnRIGHT HEAVY AND LEFT VERTICAL LIGHT",
     "nVERTICAL LIGHT AND HORIZONTAL HEAVYnUP HEAVY AND DOWN HORIZONTAL LIGHT",
     "nDOWN HEAVY AND UP HORIZONTAL LIGHTnVERTICAL HEAVY AND HORIZONTAL LIGHT",
     "nLEFT UP HEAVY AND RIGHT DOWN LIGHTnRIGHT UP HEAVY AND LEFT DOWN LIGHT",
     "nLEFT DOWN HEAVY AND RIGHT UP LIGHTnRIGHT DOWN HEAVY AND LEFT UP LIGHT",
     "nDOWN LIGHT AND UP HORIZONTAL HEAVYnUP LIGHT AND DOWN HORIZONTAL HEAVY",
     "nRIGHT LIGHT AND LEFT VERTICAL HEAVYnLEFT LIGHT AND RIGHT VERTICAL HEAVY",
     "nHEAVY VERTICAL AND HORIZONTALnLIGHT DOUBLE DASH HORIZONTALnHEAVY DOUBLE DASH HORIZONTAL",
     "nLIGHT DOUBLE DASH VERTICALnHEAVY DOUBLE DASH VERTICALnDOUBLE HORIZONTALuVERTICAL",
     "pWN SINGLE AND RIGHT DOUBLEsDOUBLE AND RIGHT SINGLEpUBLE DOWN AND RIGHT",
     "pWN SINGLE AND LEFT DOUBLEsDOUBLE AND LEFT SINGLEpUBLE DOWN AND LEFT",
     "nUP SINGLE AND RIGHT DOUBLEqDOUBLE AND RIGHT SINGLEnDOUBLE UP AND RIGHT",
     "nUP SINGLE AND LEFT DOUBLEqDOUBLE AND LEFT SINGLEnDOUBLE UP AND LEFT",
     "nVERTICAL SINGLE AND RIGHT DOUBLEwDOUBLE AND RIGHT SINGLEnDOUBLE VERTICAL AND RIGHT",
     "nVERTICAL SINGLE AND LEFT DOUBLEwDOUBLE AND LEFT SINGLEnDOUBLE VERTICAL AND LEFT",
     "pWN SINGLE AND HORIZONTAL DOUBLEsDOUBLE AND HORIZONTAL SINGLEpUBLE DOWN AND HORIZONTAL",
     "nUP SINGLE AND HORIZONTAL DOUBLEqDOUBLE AND HORIZONTAL SINGLEnDOUBLE UP AND HORIZONTAL",
     "nVERTICAL SINGLE AND HORIZONTAL DOUBLEwDOUBLE AND HORIZONTAL SINGLE",
     "nDOUBLE VERTICAL AND HORIZONTALnLIGHT ARC DOWN AND RIGHT,LEFTxUP AND LEFT*RIGHT",
     "tDIAGONAL UPPER RIGHT TO LOWER LEFT/LEFT TO LOWER RIGHT%CROSStLEFTtUPtRIGHTtDOWN",
     "nHEAVY LEFTtUPtRIGHTtDOWNnLIGHT LEFT AND HEAVY RIGHTtUP AND HEAVY DOWN",
     "nHEAVY LEFT AND LIGHT RIGHTtUP AND LIGHT DOWNaUPPER HALF BLOCKaLOWER ONE EIGHTH BLOCK",
     "kQUARTER BLOCKgTHREE EIGHTHS BLOCKgHALF BLOCKgFIVE EIGHTHS BLOCKgTHREE QUARTERS BLOCK",
     "gSEVEN EIGHTHS BLOCKaFULL BLOCKaLEFT SEVEN EIGHTHS BLOCKfTHREE QUARTERS BLOCK",
     "fFIVE EIGHTHS BLOCKfHALF BLOCKfTHREE EIGHTHS BLOCKfONE QUARTER BLOCKjEIGHTH BLOCK",
     "aRIGHT HALF BLOCKaLIGHT SHADEaMEDIUM SHADEaDARK SHADEaUPPER ONE EIGHTH BLOCK",
     "aRIGHT ONE EIGHTH BLOCKaQUADRANT LOWER LEFTpRIGHTjUPPER LEFT",
     "t AND LOWER LEFT AND LOWER RIGHT*RIGHTyUPPER RIGHT AND LOWER LEFT~ RIGHTpRIGHT",
     "u AND LOWER LEFT: AND LOWER RIGHTaBLACK SQUAREaWHITE SQUAREm WITH ROUNDED CORNERS",
     "nCONTAINING BLACK SMALL SQUAREaSQUARE WITH HORIZONTAL FILLmVERTICAL FILL",
     "mORTHOGONAL CROSSHATCH FILLmUPPER LEFT TO LOWER RIGHT FILLsRIGHT TO LOWER LEFT FILL",
     "mDIAGONAL CROSSHATCH FILLaBLACK SMALL SQUAREaWHITE SMALL SQUAREaBLACK RECTANGLE",
     "aWHITE RECTANGLEaBLACK VERTICAL RECTANGLEaWHITE VERTICAL RECTANGLEaBLACK PARALLELOGRAM",
     "aWHITE PARALLELOGRAMaBLACK UP-POINTING TRIANGLEaWHITE UP-POINTING TRIANGLE",
     "aBLACK UP-POINTING SMALL TRIANGLEaWHITE UP-POINTING SMALL TRIANGLE",
     "aBLACK RIGHT-POINTING TRIANGLEaWHITE RIGHT-POINTING TRIANGLE",
     "aBLACK RIGHT-POINTING SMALL TRIANGLEaWHITE RIGHT-POINTING SMALL TRIANGLE",
     "aBLACK RIGHT-POINTING POINTERaWHITE RIGHT-POINTING POINTERaBLACK DOWN-POINTING TRIANGLE",
     "aWHITE DOWN-POINTING TRIANGLEaBLACK DOWN-POINTING SMALL TRIANGLE",
     "aWHITE DOWN-POINTING SMALL TRIANGLEaBLACK LEFT-POINTING TRIANGLE",
     "aWHITE LEFT-POINTING TRIANGLEaBLACK LEFT-POINTING SMALL TRIANGLE",
     "aWHITE LEFT-POINTING SMALL TRIANGLEaBLACK LEFT-POINTING POINTER",
     "aWHITE LEFT-POINTING POINTERaBLACK DIAMONDaWHITE DIAMONDn CONTAINING BLACK SMALL DIAMOND",
     "aFISHEYEaLOZENGEaWHITE CIRCLEaDOTTED CIRCLEaCIRCLE WITH VERTICAL FILLaBULLSEYEbLACK CIRCLE",
     "aCIRCLE WITH LEFT HALF BLACKmRIGHT HALF BLACKmLOWER HALF BLACKmUPPER HALF BLACK",
     "sRIGHT QUADRANT BLACKmALL BUT UPPER LEFT QUADRANT BLACKaLEFT HALF BLACK CIRCLE",
     "aRIGHT HALF BLACK CIRCLEaINVERSE BULLETiWHITE CIRCLEaUPPER HALF INVERSE WHITE CIRCLE",
     "aLOWER HALF INVERSE WHITE CIRCLEaUPPER LEFT QUADRANT CIRCULAR ARC",
     "gRIGHT QUADRANT CIRCULAR ARCaLOWER RIGHT QUADRANT CIRCULAR ARCgLEFT QUADRANT CIRCULAR ARC",
     "aUPPER HALF CIRCLEaLOWER HALF CIRCLEaBLACK LOWER RIGHT TRIANGLEmLEFT TRIANGLE",
     "gUPPER LEFT TRIANGLEmRIGHT TRIANGLEaWHITE BULLETaSQUARE WITH LEFT HALF BLACK",
     "mRIGHT HALF BLACKmUPPER LEFT DIAGONAL HALF BLACKmLOWER RIGHT DIAGONAL HALF BLACK",
     "aWHITE SQUARE WITH VERTICAL BISECTING LINEgUP-POINTING TRIANGLE WITH DOT",
     "aUP-POINTING TRIANGLE WITH LEFT HALF BLACK!RIGHT HALF BLACKaLARGE CIRCLE",
     "aWHITE SQUARE WITH UPPER LEFT QUADRANTsLOWER LEFT QUADRANTyRIGHT QUADRANT",
     "sUPPER RIGHT QUADRANTgCIRCLE WITH UPPER LEFT QUADRANTsLOWER LEFT QUADRANTyRIGHT QUADRANT",
     "sUPPER RIGHT QUADRANTaUPPER LEFT TRIANGLEgRIGHT TRIANGLEaLOWER LEFT TRIANGLE",
     "aWHITE MEDIUM SQUAREaBLACK MEDIUM SQUAREaWHITE MEDIUM SMALL SQUARE",
     "aBLACK MEDIUM SMALL SQUAREaLOWER RIGHT TRIANGLEaBLACK SUN WITH RAYSaCLOUDaUMBRELLAaSNOWMAN",
     "aCOMETaBLACK STARaWHITE STARaLIGHTNINGaTHUNDERSTORMaSUNaASCENDING NODEaDESCENDING NODE",
     "aCONJUNCTIONaOPPOSITIONaBLACK TELEPHONEaWHITE TELEPHONEaBALLOT BOXk WITH CHECKqXaSALTIRE",
     "aUMBRELLA WITH RAIN DROPSaHOT BEVERAGEaWHITE SHOGI PIECEaBLACK SHOGI PIECEaSHAMROCK",
     "aREVERSED ROTATED FLORAL HEART BULLETaBLACK LEFT POINTING INDEXgRIGHT POINTING INDEX",
     "aWHITE LEFT POINTING INDEXgUP POINTING INDEXgRIGHT POINTING INDEXgDOWN POINTING INDEX",
     "aSKULL AND CROSSBONESaCAUTION SIGNaRADIOACTIVE SIGNaBIOHAZARD SIGNaCADUCEUSaANKH",
     "aORTHODOX CROSSaCHI RHObROSS OF LORRAINEjJERUSALEMaSTAR AND CRESCENTaFARSI SYMBOL",
     "aADI SHAKTIaHAMMER AND SICKLEaPEACE SYMBOLaYIN YANGaTRIGRAM FOR HEAVENmLAKEmFIREmTHUNDER",
     "mWINDnATERmMOUNTAINmEARTHaWHEEL OF DHARMAcITE FROWNING FACEgSMILING FACE",
     "aBLACK SMILING FACEaWHITE SUN WITH RAYSaFIRST QUARTER MOONaLAST QUARTER MOONaMERCURY",
     "aFEMALE SIGNaEARTHaMALE SIGNaJUPITERaSATURNaURANUSaNEPTUNEaPLUTOaARIESaTAURUSaGEMINI",
     "aCANCERaLEOaVIRGOaLIBRAaSCORPIUSbAGITTARIUSaCAPRICORNaAQUARIUSaPISCESaWHITE CHESS KING",
     "mQUEENmROOKmBISHOPmKNIGHTmPAWNaBLACK CHESS KINGmQUEENmROOKmBISHOPmKNIGHTmPAWNgSPADE SUIT",
     "aWHITE HEART SUITgDIAMOND SUITaBLACK CLUB SUITaWHITE SPADE SUITaBLACK HEART SUIT",
     "gDIAMOND SUITaWHITE CLUB SUITaHOT SPRINGSaQUARTER NOTEaEIGHTH NOTEaBEAMED EIGHTH NOTES",
     "hSIXTEENTH NOTESaMUSIC FLAT SIGNgNATURAL SIGNgSHARP SIGNaWEST SYRIAC CROSS",
     "aEAST SYRIAC CROSSaUNIVERSAL RECYCLING SYMBOLaRECYCLING SYMBOL FOR TYPE-1 PLASTICS",
     "!2 PLASTICS!3 PLASTICS!4 PLASTICS!5 PLASTICS!6 PLASTICS!7 PLASTICSvGENERIC MATERIALS",
     "aBLACK UNIVERSAL RECYCLING SYMBOLaRECYCLED PAPER SYMBOLaPARTIALLY-RECYCLED PAPER SYMBOL",
     "bERMANENT PAPER SIGNaWHEELCHAIR SYMBOLaDIE FACE-1j2j3j4j5j6aWHITE CIRCLE WITH DOT RIGHT",
     "sTWO DOTSaBLACK CIRCLE WITH WHITE DOT RIGHTsTWO WHITE DOTSaMONOGRAM FOR YANGoIN",
     "aDIGRAM FOR GREATER YANGlLESSER YINtANGlGREATER YINaWHITE FLAGaBLACK FLAGaHAMMER AND PICK",
     "aANCHORaCROSSED SWORDSaSTAFF OF AESCULAPIUSbCALESaALEMBICaFLOWERaGEARaSTAFF OF HERMES",
     "aATOM SYMBOLaFLEUR-DE-LISaOUTLINED WHITE STARaTHREE LINES CONVERGING RIGHTxLEFT",
     "aWARNING SIGNaHIGH VOLTAGE SIGNaDOUBLED FEMALE SIGNiMALE SIGN",
     "aINTERLOCKED FEMALE AND MALE SIGNaMALE AND FEMALE SIGNfWITH STROKE SIGN",
     "rAND MALE AND FEMALE SIGNaVERTICAL MALE WITH STROKE SIGNaHORIZONTAL MALE WITH STROKE SIGN",
     "aMEDIUM WHITE CIRCLEhBLACK CIRCLEhSMALL WHITE CIRCLEbARRIAGE SYMBOLaDIVORCE SYMBOL",
     "aUNMARRIED PARTNERSHIP SYMBOLaCOFFINaFUNERAL URNaNEUTERaCERESaPALLASaJUNOaVESTAaCHIRON",
     "aBLACK MOON LILITHaSEXTILEcMISEXTILEaQUINCUNXaSESQUIQUADRATEbOCCER BALLaBASEBALL",
     "aSQUARED KEYaWHITE DRAUGHTS MANpKINGaBLACK DRAUGHTS MANpKINGaSNOWMAN WITHOUT SNOW",
     "bUN BEHIND CLOUDaRAINaBLACK SNOWMANaTHUNDER CLOUD AND RAINbURNED WHITE SHOGI PIECE",
     "hBLACK SHOGI PIECEaWHITE DIAMOND IN SQUAREaCROSSING LANESaDISABLED CARaOPHIUCHUSaPICK",
     "aCAR SLIDINGaHELMET WITH WHITE CROSSaCIRCLED CROSSING LANESbHAINSaNO ENTRY",
     "aALTERNATE ONE-WAY LEFT WAY TRAFFICaBLACK TWO-WAY LEFT WAY TRAFFIC",
     "aWHITE TWO-WAY LEFT WAY TRAFFICaBLACK LEFT LANE MERGEaWHITE LEFT LANE MERGE",
     "aDRIVE SLOW SIGNaHEAVY WHITE DOWN-POINTING TRIANGLEaLEFT CLOSED ENTRYaSQUARED SALTIRE",
     "aFALLING DIAGONAL IN WHITE CIRCLE IN BLACK SQUAREaBLACK TRUCKaRESTRICTED LEFT ENTRY-1w2",
     "aASTRONOMICAL SYMBOL FOR URANUSaHEAVY CIRCLE WITH STROKE AND TWO DOTS ABOVEaPENTAGRAM",
     "aRIGHT-HANDED INTERLACED PENTAGRAMaLEFT-HANDED INTERLACED PENTAGRAMaINVERTED PENTAGRAM",
     "aBLACK CROSS ON SHIELDaSHINTO SHRINEaCHURCHbASTLEaHISTORIC SITEaGEAR WITHOUT HUBj HANDLES",
     "aMAP SYMBOL FOR LIGHTHOUSEbOUNTAINaUMBRELLA ON GROUNDaFOUNTAINbLAG IN HOLEbERRYaSAILBOAT",
     "bQUARE FOUR CORNERSbKIERaICE SKATEaPERSON WITH BALLaTENTaJAPANESE BANK SYMBOL",
     "aHEADSTONE GRAVEYARD SYMBOLaFUEL PUMPaCUP ON BLACK SQUARE",
     "aWHITE FLAG WITH HORIZONTAL MIDDLE BLACK STRIPEaBLACK SAFETY SCISSORSaUPPER BLADE SCISSORS",
     "aBLACK SCISSORSaLOWER BLADE SCISSORSaWHITE SCISSORSgHEAVY CHECK MARK",
     "aTELEPHONE LOCATION SIGNbAPE DRIVEaAIRPLANEaENVELOPEaRAISED FISThHANDaVICTORY HAND",
     "aWRITING HANDaLOWER RIGHT PENCILaPENCILaUPPER RIGHT PENCILaWHITE NIBaBLACK NIBaCHECK MARK",
     "aHEAVY CHECK MARKaMULTIPLICATION XaHEAVY MULTIPLICATION XaBALLOT XaHEAVY BALLOT X",
     "aOUTLINED GREEK CROSSaHEAVY GREEK CROSSaOPEN CENTRE CROSSaHEAVY OPEN CENTRE CROSS",
     "aLATIN CROSSaSHADOWED WHITE LATIN CROSSaOUTLINED LATIN CROSSaMALTESE CROSSaSTAR OF DAVID",
     "aFOUR TEARDROP-SPOKED ASTERISKfBALLOON-SPOKED ASTERISKaHEAVY FOUR BALLOON-SPOKED ASTERISK",
     "aFOUR CLUB-SPOKED ASTERISKaBLACK FOUR POINTED STARaWHITE FOUR POINTED STARaSPARKLES",
     "bTRESS OUTLINED WHITE STARaCIRCLED WHITE STARaOPEN CENTRE BLACK STAR",
     "aBLACK CENTRE WHITE STARaOUTLINED BLACK STARaHEAVY OUTLINED BLACK STARaPINWHEEL STAR",
     "aSHADOWED WHITE STARaHEAVY ASTERISKaOPEN CENTRE ASTERISKaEIGHT SPOKED ASTERISK",
     "gPOINTED BLACK STARoPINWHEEL STARaSIX POINTED BLACK STAR",
     "aEIGHT POINTED RECTILINEAR BLACK STARaHEAVY EIGHT POINTED RECTILINEAR BLACK STAR",
     "aTWELVE POINTED BLACK STARaSIXTEEN POINTED ASTERISKaTEARDROP-SPOKED ASTERISK",
     "aOPEN CENTRE TEARDROP-SPOKED ASTERISKaHEAVY TEARDROP-SPOKED ASTERISK",
     "aSIX PETALLED BLACK AND WHITE FLORETTEaBLACK FLORETTEaWHITE FLORETTE",
     "aEIGHT PETALLED OUTLINED BLACK FLORETTEaCIRCLED OPEN CENTRE EIGHT POINTED STAR",
     "aHEAVY TEARDROP-SPOKED PINWHEEL ASTERISKaSNOWFLAKEaTIGHT TRIFOLIATE SNOWFLAKE",
     "aHEAVY CHEVRON SNOWFLAKEaSPARKLEaHEAVY SPARKLEaBALLOON-SPOKED ASTERISK",
     "aEIGHT TEARDROP-SPOKED PROPELLER ASTERISKaHEAVY EIGHT TEARDROP-SPOKED PROPELLER ASTERISK",
     "aCROSS MARKaSHADOWED WHITE CIRCLEaNEGATIVE SQUARED CROSS MARK",
     "aLOWER RIGHT DROP-SHADOWED WHITE SQUAREaUPPER RIGHT DROP-SHADOWED WHITE SQUARE",
     "aLOWER RIGHT SHADOWED WHITE SQUAREaUPPER RIGHT SHADOWED WHITE SQUARE",
     "aBLACK QUESTION MARK ORNAMENTaWHITE QUESTION MARK ORNAMENTgEXCLAMATION MARK ORNAMENT",
     "aBLACK DIAMOND MINUS WHITE XaHEAVY EXCLAMATION MARK SYMBOLaLIGHT VERTICAL BAR",
     "aMEDIUM VERTICAL BARaHEAVY VERTICAL BARgSINGLE TURNED COMMA QUOTATION MARK ORNAMENT",
     "nCOMMA QUOTATION MARK ORNAMENTgDOUBLE TURNED COMMA QUOTATION MARK ORNAMENT",
     "nCOMMA QUOTATION MARK ORNAMENTgLOW SINGLE COMMA QUOTATION MARK ORNAMENT",
     "kDOUBLE COMMA QUOTATION MARK ORNAMENTaCURVED STEM PARAGRAPH SIGN ORNAMENT",
     "aHEAVY EXCLAMATION MARK ORNAMENTgHEART EXCLAMATION MARK ORNAMENTgBLACK HEART",
     "aROTATED HEAVY BLACK HEART BULLETaFLORAL HEARTaROTATED FLORAL HEART BULLET",
     "aMEDIUM LEFT PARENTHESIS ORNAMENThRIGHT PARENTHESIS ORNAMENT",
     "hFLATTENED LEFT PARENTHESIS ORNAMENTrRIGHT PARENTHESIS ORNAMENT",
     "hLEFT-POINTING ANGLE BRACKET ORNAMENThRIGHT-POINTING ANGLE BRACKET ORNAMENT",
     "aHEAVY LEFT-POINTING ANGLE QUOTATION MARK ORNAMENT",
     "gRIGHT-POINTING ANGLE QUOTATION MARK ORNAMENTgLEFT-POINTING ANGLE BRACKET ORNAMENT",
     "gRIGHT-POINTING ANGLE BRACKET ORNAMENTaLIGHT LEFT TORTOISE SHELL BRACKET ORNAMENT",
     "gRIGHT TORTOISE SHELL BRACKET ORNAMENTaMEDIUM LEFT CURLY BRACKET ORNAMENT",
     "hRIGHT CURLY BRACKET ORNAMENTaDINGBAT NEGATIVE CIRCLED DIGIT ONE+TWO,HREE+FOUR,IVE+SIX",
     ",EVEN+EIGHT+NINEzNUMBER TENiCIRCLED SANS-SERIF DIGIT ONE.TWO/HREE.FOUR/IVE.SIX/EVEN.EIGHT",
     ".NINE$NUMBER TENiNEGATIVE CIRCLED SANS-SERIF DIGIT ONE^TWO_HREE^FOUR_IVE^SIX_EVEN^EIGHT",
     "^NINE;NUMBER TENaHEAVY WIDE-HEADED RIGHTWARDS ARROWgPLUS SIGNgMINUS SIGNgDIVISION SIGN",
     "gSOUTH EAST ARROWgRIGHTWARDS ARROWgNORTH EAST ARROWaDRAFTING POINT RIGHTWARDS ARROW",
     "aHEAVY ROUND-TIPPED RIGHTWARDS ARROWaTRIANGLE-HEADED RIGHTWARDS ARROW",
     "aHEAVY TRIANGLE-HEADED RIGHTWARDS ARROWaDASHED TRIANGLE-HEADED RIGHTWARDS ARROW",
     "aHEAVY DASHED TRIANGLE-HEADED RIGHTWARDS ARROWaBLACK RIGHTWARDS ARROW",
     "aTHREE-D TOP-LIGHTED RIGHTWARDS ARROWHEADiBOTTOM-LIGHTED RIGHTWARDS ARROWHEAD",
     "aBLACK RIGHTWARDS ARROWHEADaHEAVY BLACK CURVED DOWNWARDS AND RIGHTWARDS ARROW",
     "tUPWARDS AND RIGHTWARDS ARROWaSQUAT BLACK RIGHTWARDS ARROW",
     "aHEAVY CONCAVE-POINTED BLACK RIGHTWARDS ARROWaRIGHT-SHADED WHITE RIGHTWARDS ARROW",
     "aLEFT-SHADED WHITE RIGHTWARDS ARROWaBACK-TILTED SHADOWED WHITE RIGHTWARDS ARROW",
     "aFRONT-TILTED SHADOWED WHITE RIGHTWARDS ARROW",
     "aHEAVY LOWER RIGHT-SHADOWED WHITE RIGHTWARDS ARROW",
     "gUPPER RIGHT-SHADOWED WHITE RIGHTWARDS ARROW",
     "aNOTCHED LOWER RIGHT-SHADOWED WHITE RIGHTWARDS ARROWaCURLY LOOP",
     "aNOTCHED UPPER RIGHT-SHADOWED WHITE RIGHTWARDS ARROWaCIRCLED HEAVY WHITE RIGHTWARDS ARROW",
     "aWHITE-FEATHERED RIGHTWARDS ARROWaBLACK-FEATHERED SOUTH EAST ARROWqRIGHTWARDS ARROW",
     "qNORTH EAST ARROWaHEAVY BLACK-FEATHERED SOUTH EAST ARROWwRIGHTWARDS ARROWwNORTH EAST ARROW",
     "aTEARDROP-BARBED RIGHTWARDS ARROWaHEAVY TEARDROP-SHANKED RIGHTWARDS ARROW",
     "aWEDGE-TAILED RIGHTWARDS ARROWaHEAVY WEDGE-TAILED RIGHTWARDS ARROW",
     "aOPEN-OUTLINED RIGHTWARDS ARROWaDOUBLE CURLY LOOPaTHREE DIMENSIONAL ANGLE",
     "aWHITE TRIANGLE CONTAINING SMALL WHITE TRIANGLEaPERPENDICULARaOPEN SUBSEThPERSET",
     "aLEFT S-SHAPED BAG DELIMITERaRIGHT S-SHAPED BAG DELIMITERaOR WITH DOT INSIDE",
     "aREVERSE SOLIDUS PRECEDING SUBSETaSUPERSET PRECEDING SOLIDUS",
     "aVERTICAL BAR WITH HORIZONTAL STROKEaMATHEMATICAL RISING DIAGONALaLONG DIVISION",
     "aMATHEMATICAL FALLING DIAGONALaSQUARED LOGICAL ANDqORaWHITE DIAMOND WITH CENTRED DOT",
     "aAND WITH DOTaELEMENT OF OPENING UPWARDSaLOWER RIGHT CORNER WITH DOT",
     "aUPPER LEFT CORNER WITH DOTaLEFT OUTER JOINaRIGHT OUTER JOINaFULL OUTER JOINaLARGE UP TACK",
     "gDOWN TACKbEFT AND RIGHT DOUBLE TURNSTILEpTACKfMULTIMAPbONG RIGHT TACKfLEFT TACK",
     "aUP TACK WITH CIRCLE ABOVEaLOZENGE DIVIDED BY HORIZONTAL RULEaWHITE CONCAVE-SIDED DIAMOND",
     "$ WITH LEFTWARDS TICK.RIGHTWARDS TICKgSQUARE WITH LEFTWARDS TICKsRIGHTWARDS TICK",
     "aMATHEMATICAL LEFT WHITE SQUARE BRACKETnRIGHT WHITE SQUARE BRACKETnLEFT ANGLE BRACKET",
     "nRIGHT ANGLE BRACKETnLEFT DOUBLE ANGLE BRACKETnRIGHT DOUBLE ANGLE BRACKET",
     "nLEFT WHITE TORTOISE SHELL BRACKETnRIGHT WHITE TORTOISE SHELL BRACKET",
     "nLEFT FLATTENED PARENTHESISnRIGHT FLATTENED PARENTHESISaUPWARDS QUADRUPLE ARROW",
     "aDOWNWARDS QUADRUPLE ARROWaANTICLOCKWISE GAPPED CIRCLE ARROWaCLOCKWISE GAPPED CIRCLE ARROW",
     "aRIGHT ARROW WITH CIRCLED PLUSaLONG LEFTWARDS ARROWfRIGHTWARDS ARROWfLEFT RIGHT ARROW",
     "jWARDS DOUBLE ARROWfRIGHTWARDS DOUBLE ARROWfLEFT RIGHT DOUBLE ARROWjWARDS ARROW FROM BAR",
     "fRIGHTWARDS ARROW FROM BARfLEFTWARDS DOUBLE ARROW FROM BAR",
     "fRIGHTWARDS DOUBLE ARROW FROM BARqSQUIGGLE ARROWaBRAILLE PATTERN BLANKqDOTS-1v2v12v3v13v23",
     "v123v4v14v24v124v34v134v234v1234v5v15v25v125v35v135v235v1235v45v145v245v1245v345v1345v2345",
     "v12345v6v16v26v126v36v136v236v1236v46v146v246v1246v346v1346v2346v12346v56v156v256v1256v356",
     "v1356v2356v12356v456v1456v2456v12456v3456v13456v23456v123456v7v17v27v127v37v137v237v1237",
     "v47v147v247v1247v347v1347v2347v12347v57v157v257v1257v357v1357v2357v12357v457v1457v2457",
     "v12457v3457v13457v23457v123457v67v167v267v1267v367v1367v2367v12367v467v1467v2467v12467",
     "v3467v13467v23467v123467v567v1567v2567v12567v3567v13567v23567v123567v4567v14567v24567",
     "v124567v34567v134567v234567v1234567v8v18v28v128v38v138v238v1238v48v148v248v1248v348v1348",
     "v2348v12348v58v158v258v1258v358v1358v2358v12358v458v1458v2458v12458v3458v13458v23458",
     "v123458v68v168v268v1268v368v1368v2368v12368v468v1468v2468v12468v3468v13468v23468v123468",
     "v568v1568v2568v12568v3568v13568v23568v123568v4568v14568v24568v124568v34568v134568v234568",
     "v1234568v78v178v278v1278v378v1378v2378v12378v478v1478v2478v12478v3478v13478v23478v123478",
     "v578v1578v2578v12578v3578v13578v23578v123578v4578v14578v24578v124578v34578v134578v234578",
     "v1234578v678v1678v2678v12678v3678v13678v23678v123678v4678v14678v24678v124678v34678v134678",
     "v234678v1234678v5678v15678v25678v125678v35678v135678v235678v1235678v45678v145678v245678",
     "v1245678v345678v1345678v2345678v12345678aRIGHTWARDS TWO-HEADED ARROW WITH VERTICAL STROKE",
     ".DOUBLE VERTICAL STROKEaLEFTWARDS DOUBLE ARROW WITH VERTICAL STROKE",
     "aRIGHTWARDS DOUBLE ARROW WITH VERTICAL STROKEaLEFT RIGHT DOUBLE ARROW WITH VERTICAL STROKE",
     "aRIGHTWARDS TWO-HEADED ARROW FROM BARaLEFTWARDS DOUBLE ARROW FROM BAR",
     "aRIGHTWARDS DOUBLE ARROW FROM BARaDOWNWARDS ARROW WITH HORIZONTAL STROKE",
     "aUPWARDS ARROW WITH HORIZONTAL STROKEiTRIPLE ARROWaDOWNWARDS TRIPLE ARROW",
     "aLEFTWARDS DOUBLE DASH ARROWaRIGHTWARDS DOUBLE DASH ARROWaLEFTWARDS TRIPLE DASH ARROW",
     "aRIGHTWARDS TRIPLE DASH ARROWmWO-HEADED TRIPLE DASH ARROWlARROW WITH DOTTED STEM",
     "aUPWARDS ARROW TO BARaDOWNWARDS ARROW TO BAR",
     "aRIGHTWARDS ARROW WITH TAIL WITH VERTICAL STROKE,DOUBLE VERTICAL STROKE",
     "lTWO-HEADED ARROW WITH TAIL< WITH VERTICAL STROKE_DOUBLE VERTICAL STROKE",
     "aLEFTWARDS ARROW-TAILaRIGHTWARDS ARROW-TAILaLEFTWARDS DOUBLE ARROW-TAIL",
     "aRIGHTWARDS DOUBLE ARROW-TAILaLEFTWARDS ARROW TO BLACK DIAMOND",
     "aRIGHTWARDS ARROW TO BLACK DIAMONDaLEFTWARDS ARROW FROM BAR TO BLACK DIAMOND",
     "aRIGHTWARDS ARROW FROM BAR TO BLACK DIAMONDaNORTH WEST AND SOUTH EAST ARROW",
     "gEAST AND SOUTH WEST ARROWgWEST ARROW WITH HOOKgEAST ARROW WITH HOOK",
     "aSOUTH EAST ARROW WITH HOOKgWEST ARROW WITH HOOKaNORTH WEST ARROW AND NORTH EAST ARROW",
     "gEAST ARROW AND SOUTH EAST ARROWaSOUTH EAST ARROW AND SOUTH WEST ARROW",
     "gWEST ARROW AND NORTH WEST ARROWaRISING DIAGONAL CROSSING FALLING DIAGONAL",
     "aFALLING DIAGONAL CROSSING RISING DIAGONALaSOUTH EAST ARROW CROSSING NORTH EAST ARROW",
     "aNORTH EAST ARROW CROSSING SOUTH EAST ARROWaFALLING DIAGONAL CROSSING NORTH EAST ARROW",
     "aRISING DIAGONAL CROSSING SOUTH EAST ARROWaNORTH EAST ARROW CROSSING NORTH WEST ARROW",
     "gWEST ARROW CROSSING NORTH EAST ARROWaWAVE ARROW POINTING DIRECTLY RIGHT",
     "aARROW POINTING RIGHTWARDS THEN CURVING UPWARDS>DOWNWARDSpDOWNWARDS THEN CURVING LEFTWARDS",
     "=RIGHTWARDSaRIGHT-SIDE ARC CLOCKWISE ARROWaLEFT-SIDE ARC ANTICLOCKWISE ARROW",
     "aTOP ARC ANTICLOCKWISE ARROWaBOTTOM ARC ANTICLOCKWISE ARROW",
     "aTOP ARC CLOCKWISE ARROW WITH MINUSiANTICLOCKWISE ARROW WITH PLUS",
     "aLOWER RIGHT SEMICIRCULAR CLOCKWISE ARROWgLEFT SEMICIRCULAR ANTICLOCKWISE ARROW",
     "aANTICLOCKWISE CLOSED CIRCLE ARROWaCLOCKWISE CLOSED CIRCLE ARROW",
     "aRIGHTWARDS ARROW ABOVE SHORT LEFTWARDS ARROWaLEFTWARDS ARROW ABOVE SHORT RIGHTWARDS ARROW",
     "aSHORT RIGHTWARDS ARROW ABOVE LEFTWARDS ARROWaRIGHTWARDS ARROW WITH PLUS BELOW",
     "aLEFTWARDS ARROW WITH PLUS BELOWaRIGHTWARDS ARROW THROUGH X",
     "aLEFT RIGHT ARROW THROUGH SMALL CIRCLEaUPWARDS TWO-HEADED ARROW FROM SMALL CIRCLE",
     "aLEFT BARB UP RIGHT BARB DOWN HARPOONkDOWN RIGHT BARB UP HARPOON",
     "aUP BARB RIGHT DOWN BARB LEFT HARPOONiLEFT DOWN BARB RIGHT HARPOON",
     "aLEFT BARB UP RIGHT BARB UP HARPOONaUP BARB RIGHT DOWN BARB RIGHT HARPOON",
     "aLEFT BARB DOWN RIGHT BARB DOWN HARPOONaUP BARB LEFT DOWN BARB LEFT HARPOON",
     "aLEFTWARDS HARPOON WITH BARB UP TO BARaRIGHTWARDS HARPOON WITH BARB UP TO BAR",
     "aUPWARDS HARPOON WITH BARB RIGHT TO BARaDOWNWARDS HARPOON WITH BARB RIGHT TO BAR",
     "aLEFTWARDS HARPOON WITH BARB DOWN TO BARaRIGHTWARDS HARPOON WITH BARB DOWN TO BAR",
     "aUPWARDS HARPOON WITH BARB LEFT TO BARaDOWNWARDS HARPOON WITH BARB LEFT TO BAR",
     "aLEFTWARDS HARPOON WITH BARB UP FROM BARaRIGHTWARDS HARPOON WITH BARB UP FROM BAR",
     "aUPWARDS HARPOON WITH BARB RIGHT FROM BARaDOWNWARDS HARPOON WITH BARB RIGHT FROM BAR",
     "aLEFTWARDS HARPOON WITH BARB DOWN FROM BARaRIGHTWARDS HARPOON WITH BARB DOWN FROM BAR",
     "aUPWARDS HARPOON WITH BARB LEFT FROM BARaDOWNWARDS HARPOON WITH BARB LEFT FROM BAR",
     "aLEFTWARDS HARPOON WITH BARB UP ABOVE LEFTWARDS HARPOON WITH BARB DOWN",
     "aUPWARDS HARPOON WITH BARB LEFT BESIDE UPWARDS HARPOON WITH BARB RIGHT",
     "aRIGHTWARDS HARPOON WITH BARB UP ABOVE RIGHTWARDS HARPOON WITH BARB DOWN",
     "aDOWNWARDS HARPOON WITH BARB LEFT BESIDE DOWNWARDS HARPOON WITH BARB RIGHT",
     "aLEFTWARDS HARPOON WITH BARB UP ABOVE RIGHTWARDS HARPOON WITH BARB UP",
     "%DOWN ABOVE RIGHTWARDS HARPOON WITH BARB DOWN",
     "aRIGHTWARDS HARPOON WITH BARB UP ABOVE LEFTWARDS HARPOON WITH BARB UP",
     "&DOWN ABOVE LEFTWARDS HARPOON WITH BARB DOWN",
     "aLEFTWARDS HARPOON WITH BARB UP ABOVE LONG DASH%DOWN BELOW LONG DASH",
     "aRIGHTWARDS HARPOON WITH BARB UP ABOVE LONG DASH&DOWN BELOW LONG DASH",
     "aUPWARDS HARPOON WITH BARB LEFT BESIDE DOWNWARDS HARPOON WITH BARB RIGHT",
     "aDOWNWARDS HARPOON WITH BARB LEFT BESIDE UPWARDS HARPOON WITH BARB RIGHT",
     "aRIGHT DOUBLE ARROW WITH ROUNDED HEADaEQUALS SIGN ABOVE RIGHTWARDS ARROW",
     "aTILDE OPERATOR ABOVE RIGHTWARDS ARROWaLEFTWARDS ARROW ABOVE TILDE OPERATOR",
     "aRIGHTWARDS ARROW ABOVE TILDE OPERATORxALMOST EQUAL TOaLESS-THAN ABOVE LEFTWARDS ARROW",
     "cFTWARDS ARROW THROUGH LESS-THANaGREATER-THAN ABOVE RIGHTWARDS ARROW",
     "aSUBSET ABOVE RIGHTWARDS ARROWaLEFTWARDS ARROW THROUGH SUBSET",
     "aSUPERSET ABOVE LEFTWARDS ARROWaLEFT FISH TAILaRIGHT FISH TAILaUP FISH TAILaDOWN FISH TAIL",
     "aTRIPLE VERTICAL BAR DELIMITERaZ NOTATION SPOTlTYPE COLONaLEFT WHITE CURLY BRACKET",
     "aRIGHT WHITE CURLY BRACKETaLEFT WHITE PARENTHESISaRIGHT WHITE PARENTHESIS",
     "aZ NOTATION LEFT IMAGE BRACKETlRIGHT IMAGE BRACKETlLEFT BINDING BRACKET",
     "lRIGHT BINDING BRACKETaLEFT SQUARE BRACKET WITH UNDERBAR",
     "aRIGHT SQUARE BRACKET WITH UNDERBARaLEFT SQUARE BRACKET WITH TICK IN TOP CORNER",
     "aRIGHT SQUARE BRACKET WITH TICK IN BOTTOM CORNER",
     "aLEFT SQUARE BRACKET WITH TICK IN BOTTOM CORNER",
     "aRIGHT SQUARE BRACKET WITH TICK IN TOP CORNERaLEFT ANGLE BRACKET WITH DOT",
     "aRIGHT ANGLE BRACKET WITH DOTaLEFT ARC LESS-THAN BRACKETaRIGHT ARC GREATER-THAN BRACKET",
     "aDOUBLE LEFT ARC GREATER-THAN BRACKEThRIGHT ARC LESS-THAN BRACKET",
     "aLEFT BLACK TORTOISE SHELL BRACKETaRIGHT BLACK TORTOISE SHELL BRACKETaDOTTED FENCE",
     "aVERTICAL ZIGZAG LINEaMEASURED ANGLE OPENING LEFTaRIGHT ANGLE VARIANT WITH SQUARE",
     "aMEASURED RIGHT ANGLE WITH DOTaANGLE WITH S INSIDEbCUTE ANGLEaSPHERICAL ANGLE OPENING LEFT",
     "yUPaTURNED ANGLEaREVERSED ANGLEaANGLE WITH UNDERBARaREVERSED ANGLE WITH UNDERBAR",
     "aOBLIQUE ANGLE OPENING UPwDOWN",
     "aMEASURED ANGLE WITH OPEN ARM ENDING IN ARROW POINTING UP AND RIGHT~POINTING UP AND LEFT",
     "~POINTING DOWN AND RIGHT~POINTING DOWN AND LEFT~POINTING RIGHT AND UP~POINTING LEFT AND UP",
     "~POINTING RIGHT AND DOWN~POINTING LEFT AND DOWNaREVERSED EMPTY SETaEMPTY SET WITH OVERBAR",
     "pSMALL CIRCLE ABOVEpRIGHT ARROW ABOVEpLEFT ARROW ABOVEaCIRCLE WITH HORIZONTAL BAR",
     "gD VERTICAL BARiPARALLELiREVERSE SOLIDUSiPERPENDICULAR",
     "g DIVIDED BY HORIZONTAL BAR AND TOP HALF DIVIDED BY VERTICAL BARhWITH SUPERIMPOSED X",
     "gD ANTICLOCKWISE-ROTATED DIVISION SIGNaUP ARROW THROUGH CIRCLEaCIRCLED WHITE BULLETiBULLET",
     "iLESS-THANiGREATER-THANg WITH SMALL CIRCLE TO THE RIGHT",
     "mTWO HORIZONTAL STROKES TO THE RIGHTaSQUARED RISING DIAGONAL SLASHiFALLING DIAGONAL SLASH",
     "iASTERISKiSMALL CIRCLEjQUAREaTWO JOINED SQUARESbRIANGLE WITH DOT ABOVEoUNDERBAR",
     "aS IN TRIANGLEaTRIANGLE WITH SERIFS AT BOTTOMaRIGHT TRIANGLE ABOVE LEFT TRIANGLE",
     "aLEFT TRIANGLE BESIDE VERTICAL BARaVERTICAL BAR BESIDE RIGHT TRIANGLE",
     "aBOWTIE WITH LEFT HALF BLACKmRIGHT HALF BLACKbLACK BOWTIEaTIMES WITH LEFT HALF BLACK",
     "lRIGHT HALF BLACKaWHITE HOURGLASSaBLACK HOURGLASSaLEFT WIGGLY FENCEaRIGHT WIGGLY FENCE",
     "aLEFT DOUBLE WIGGLY FENCEaRIGHT DOUBLE WIGGLY FENCEaINCOMPLETE INFINITYaTIE OVER INFINITY",
     "aINFINITY NEGATED WITH VERTICAL BARaDOUBLE-ENDED MULTIMAPaSQUARE WITH CONTOURED OUTLINE",
     "aINCREASES ASaSHUFFLE PRODUCTaEQUALS SIGN AND SLANTED PARALLEL, WITH TILDE ABOVE",
     "aIDENTICAL TO AND SLANTED PARALLELaGLEICH STARKaTHERMODYNAMIC",
     "aDOWN-POINTING TRIANGLE WITH LEFT HALF BLACK%RIGHT HALF BLACK",
     "aBLACK DIAMOND WITH DOWN ARROWgLOZENGEaWHITE CIRCLE WITH DOWN ARROW",
     "aBLACK CIRCLE WITH DOWN ARROWaERROR-BARRED WHITE SQUAREnBLACK SQUAREnWHITE DIAMOND",
     "nBLACK DIAMONDnWHITE CIRCLEnBLACK CIRCLEaRULE-DELAYEDbEVERSE SOLIDUS OPERATOR",
     "aSOLIDUS WITH OVERBARaREVERSE SOLIDUS WITH HORIZONTAL STROKEaBIG SOLIDUSeREVERSE SOLIDUS",
     "aDOUBLE PLUSaTRIPLE PLUSaLEFT-POINTING CURVED ANGLE BRACKET",
     "aRIGHT-POINTING CURVED ANGLE BRACKETaTINYaMINYaN-ARY CIRCLED DOT OPERATORoPLUS OPERATOR",
     "oTIMES OPERATORgUNION OPERATOR WITH DOT!PLUSgSQUARE INTERSECTION OPERATORnUNION OPERATOR",
     "aTWO LOGICAL AND OPERATORmOR OPERATORaN-ARY TIMES OPERATORaMODULO TWO SUM",
     "aSUMMATION WITH INTEGRALaQUADRUPLE INTEGRAL OPERATORaFINITE PART INTEGRAL",
     "aINTEGRAL WITH DOUBLE STROKEjAVERAGE WITH SLASHaCIRCULATION FUNCTION",
     "aANTICLOCKWISE INTEGRATIONaLINE INTEGRATION WITH RECTANGULAR PATH AROUND POLE",
     "wSEMICIRCULAR PATH AROUND POLErNOT INCLUDING THE POLEaINTEGRAL AROUND A POINT OPERATOR",
     "aQUATERNION INTEGRAL OPERATORaINTEGRAL WITH LEFTWARDS ARROW WITH HOOKoTIMES SIGN",
     "oINTERSECTIONoUNIONoOVERBARoUNDERBARaJOINaLARGE LEFT TRIANGLE OPERATOR",
     "aZ NOTATION SCHEMA COMPOSITIONsPIPINGtROJECTIONaPLUS SIGN WITH SMALL CIRCLE ABOVE",
     "pCIRCUMFLEX ACCENT ABOVEpTILDE ABOVEpDOT BELOWpTILDE BELOWpSUBSCRIPT TWOpBLACK TRIANGLE",
     "aMINUS SIGN WITH COMMA ABOVEqDOT BELOWqFALLING DOTSqRISING DOTS",
     "aPLUS SIGN IN LEFT HALF CIRCLEnRIGHT HALF CIRCLEaVECTOR OR CROSS PRODUCT",
     "aMULTIPLICATION SIGN WITH DOT ABOVEzUNDERBARaSEMIDIRECT PRODUCT WITH BOTTOM CLOSED",
     "bMASH PRODUCTaMULTIPLICATION SIGN IN LEFT HALF CIRCLExRIGHT HALF CIRCLE",
     "aCIRCLED MULTIPLICATION SIGN WITH CIRCUMFLEX ACCENTaMULTIPLICATION SIGN IN DOUBLE CIRCLE",
     "aCIRCLED DIVISION SIGNaPLUS SIGN IN TRIANGLEaMINUS SIGN IN TRIANGLE",
     "bULTIPLICATION SIGN IN TRIANGLEaINTERIOR PRODUCTaRIGHTHAND INTERIOR PRODUCT",
     "aZ NOTATION RELATIONAL COMPOSITIONaAMALGAMATION OR COPRODUCTaINTERSECTION WITH DOT",
     "aUNION WITH MINUS SIGNlOVERBARaINTERSECTION WITH OVERBARsLOGICAL ANDaUNION WITH LOGICAL OR",
     "gABOVE INTERSECTIONaINTERSECTION ABOVE UNIONaUNION ABOVE BAR ABOVE INTERSECTION",
     "aINTERSECTION ABOVE BAR ABOVE UNIONaUNION BESIDE AND JOINED WITH UNION",
     "aINTERSECTION BESIDE AND JOINED WITH INTERSECTIONaCLOSED UNION WITH SERIFS",
     "hINTERSECTION WITH SERIFSaDOUBLE SQUARE INTERSECTIONoUNION",
     "aCLOSED UNION WITH SERIFS AND SMASH PRODUCTaLOGICAL AND WITH DOT ABOVEiOR WITH DOT ABOVE",
     "aDOUBLE LOGICAL ANDpORaTWO INTERSECTING LOGICAL ANDzORaSLOPING LARGE ORoAND",
     "aLOGICAL OR OVERLAPPING LOGICAL ANDiAND WITH MIDDLE STEMiOR WITH MIDDLE STEM",
     "iAND WITH HORIZONTAL DASHiOR WITH HORIZONTAL DASHiAND WITH DOUBLE OVERBARrUNDERBAR",
     "rDOUBLE UNDERBARaSMALL VEE WITH UNDERBARaLOGICAL OR WITH DOUBLE OVERBARxUNDERBAR",
     "aZ NOTATION DOMAIN ANTIRESTRICTIONlRANGE ANTIRESTRICTIONaEQUALS SIGN WITH DOT BELOW",
     "aIDENTICAL WITH DOT ABOVEaTRIPLE HORIZONTAL BAR WITH DOUBLE VERTICAL STROKE",
     "$TRIPLE VERTICAL STROKEbILDE OPERATOR WITH DOT ABOVEuRISING DOTSaSIMILAR MINUS SIMILAR",
     "aCONGRUENT WITH DOT ABOVEaEQUALS WITH ASTERISKaALMOST EQUAL TO WITH CIRCUMFLEX ACCENT",
     "bPPROXIMATELY EQUAL OR EQUAL TOaEQUALS SIGN ABOVE PLUS SIGNaPLUS SIGN ABOVE EQUALS SIGN",
     "aEQUALS SIGN ABOVE TILDE OPERATORaDOUBLE COLON EQUALaTWO CONSECUTIVE EQUALS SIGNS",
     "bHREE CONSECUTIVE EQUALS SIGNSaEQUALS SIGN WITH TWO DOTS ABOVE AND TWO DOTS BELOW",
     "dIVALENT WITH FOUR DOTS ABOVEaLESS-THAN WITH CIRCLE INSIDEaGREATER-THAN WITH CIRCLE INSIDE",
     "aLESS-THAN WITH QUESTION MARK ABOVEaGREATER-THAN WITH QUESTION MARK ABOVE",
     "aLESS-THAN OR SLANTED EQUAL TOaGREATER-THAN OR SLANTED EQUAL TO",
     "aLESS-THAN OR SLANTED EQUAL TO WITH DOT INSIDE",
     "aGREATER-THAN OR SLANTED EQUAL TO WITH DOT INSIDE",
     "aLESS-THAN OR SLANTED EQUAL TO WITH DOT ABOVE",
     "aGREATER-THAN OR SLANTED EQUAL TO WITH DOT ABOVE",
     "aLESS-THAN OR SLANTED EQUAL TO WITH DOT ABOVE RIGHT",
     "aGREATER-THAN OR SLANTED EQUAL TO WITH DOT ABOVE LEFTaLESS-THAN OR APPROXIMATE",
     "aGREATER-THAN OR APPROXIMATEaLESS-THAN AND SINGLE-LINE NOT EQUAL TO",
     "aGREATER-THAN AND SINGLE-LINE NOT EQUAL TOaLESS-THAN AND NOT APPROXIMATE",
     "aGREATER-THAN AND NOT APPROXIMATEaLESS-THAN ABOVE DOUBLE-LINE EQUAL ABOVE GREATER-THAN",
     "aGREATER-THAN ABOVE DOUBLE-LINE EQUAL ABOVE LESS-THANaLESS-THAN ABOVE SIMILAR OR EQUAL",
     "aGREATER-THAN ABOVE SIMILAR OR EQUALaLESS-THAN ABOVE SIMILAR ABOVE GREATER-THAN",
     "aGREATER-THAN ABOVE SIMILAR ABOVE LESS-THAN",
     "aLESS-THAN ABOVE GREATER-THAN ABOVE DOUBLE-LINE EQUAL",
     "aGREATER-THAN ABOVE LESS-THAN ABOVE DOUBLE-LINE EQUAL",
     "aLESS-THAN ABOVE SLANTED EQUAL ABOVE GREATER-THAN ABOVE SLANTED EQUAL",
     "aGREATER-THAN ABOVE SLANTED EQUAL ABOVE LESS-THAN ABOVE SLANTED EQUAL",
     "aSLANTED EQUAL TO OR LESS-THANuGREATER-THANuLESS-THAN WITH DOT INSIDE",
     "uGREATER-THAN WITH DOT INSIDEaDOUBLE-LINE EQUAL TO OR LESS-THANyGREATER-THAN",
     "mSLANTED EQUAL TO OR LESS-THAN,GREATER-THANaSIMILAR OR LESS-THANlGREATER-THAN",
     "iABOVE LESS-THAN ABOVE EQUALS SIGNoGREATER-THAN ABOVE EQUALS SIGNaDOUBLE NESTED LESS-THAN",
     "oGREATER-THANoLESS-THAN WITH UNDERBARaGREATER-THAN OVERLAPPING LESS-THANnBESIDE LESS-THAN",
     "aLESS-THAN CLOSED BY CURVEaGREATER-THAN CLOSED BY CURVE",
     "aLESS-THAN CLOSED BY CURVE ABOVE SLANTED EQUAL",
     "aGREATER-THAN CLOSED BY CURVE ABOVE SLANTED EQUALaSMALLER THANaLARGER THAN",
     "aSMALLER THAN OR EQUAL TOaLARGER THAN OR EQUAL TOaEQUALS SIGN WITH BUMPY ABOVE",
     "aPRECEDES ABOVE SINGLE-LINE EQUALS SIGNaSUCCEEDS ABOVE SINGLE-LINE EQUALS SIGN",
     "aPRECEDES ABOVE SINGLE-LINE NOT EQUAL TOaSUCCEEDS ABOVE SINGLE-LINE NOT EQUAL TO",
     "aPRECEDES ABOVE EQUALS SIGNaSUCCEEDS ABOVE EQUALS SIGNaPRECEDES ABOVE NOT EQUAL TO",
     "aSUCCEEDS ABOVE NOT EQUAL TOaPRECEDES ABOVE ALMOST EQUAL TOaSUCCEEDS ABOVE ALMOST EQUAL TO",
     "aPRECEDES ABOVE NOT ALMOST EQUAL TOaSUCCEEDS ABOVE NOT ALMOST EQUAL TOaDOUBLE PRECEDES",
     "hSUCCEEDSaSUBSET WITH DOTcPERSET WITH DOTcBSET WITH PLUS SIGN BELOW",
     "cPERSET WITH PLUS SIGN BELOWcBSET WITH MULTIPLICATION SIGN BELOW",
     "cPERSET WITH MULTIPLICATION SIGN BELOWcBSET OF OR EQUAL TO WITH DOT ABOVE",
     "cPERSET OF OR EQUAL TO WITH DOT ABOVEcBSET OF ABOVE EQUALS SIGN",
     "cPERSET OF ABOVE EQUALS SIGNcBSET OF ABOVE TILDE OPERATORcPERSET OF ABOVE TILDE OPERATOR",
     "cBSET OF ABOVE ALMOST EQUAL TOcPERSET OF ABOVE ALMOST EQUAL TOcBSET OF ABOVE NOT EQUAL TO",
     "cPERSET OF ABOVE NOT EQUAL TObQUARE LEFT OPEN BOX OPERATORhRIGHT OPEN BOX OPERATOR",
     "aCLOSED SUBSETjPERSETjBSET OR EQUAL TOjPERSET OR EQUAL TOaSUBSET ABOVE SUPERSET",
     "cPERSET ABOVE SUBSETcBSET ABOVE SUBSETcPERSET ABOVE SUPERSETjBESIDE SUBSET",
     "qAND JOINED BY DASH WITH SUBSETaELEMENT OF OPENING DOWNWARDSaPITCHFORK WITH TEE TOP",
     "aTRANSVERSAL INTERSECTIONaFORKINGaNONFORKINGaSHORT LEFT TACKgDOWN TACKgUP TACK",
     "aPERPENDICULAR WITH SaVERTICAL BAR TRIPLE RIGHT TURNSTILE",
     "aDOUBLE VERTICAL BAR LEFT TURNSTILEaVERTICAL BAR DOUBLE LEFT TURNSTILE",
     "aDOUBLE VERTICAL BAR DOUBLE LEFT TURNSTILEaLONG DASH FROM LEFT MEMBER OF DOUBLE VERTICAL",
     "aSHORT DOWN TACK WITH OVERBARgUP TACK WITH UNDERBARoABOVE SHORT DOWN TACKaDOUBLE DOWN TACK",
     "hUP TACKhSTROKE NOT SIGNaREVERSED DOUBLE STROKE NOT SIGN",
     "aDOES NOT DIVIDE WITH REVERSED NEGATION SLASHaVERTICAL LINE WITH CIRCLE ABOVE!BELOW",
     "aDOWN TACK WITH CIRCLE BELOWaPARALLEL WITH HORIZONTAL STROKEoTILDE OPERATOR",
     "aTRIPLE VERTICAL BAR BINARY RELATIONuWITH HORIZONTAL STROKEhCOLON OPERATOR",
     "hNESTED LESS-THANoGREATER-THANaDOUBLE-LINE SLANTED LESS-THAN OR EQUAL TO",
     "uGREATER-THAN OR EQUAL TOaTRIPLE SOLIDUS BINARY RELATION",
     "aLARGE TRIPLE VERTICAL BAR OPERATORaDOUBLE SOLIDUS OPERATORaWHITE VERTICAL BAR",
     "aN-ARY WHITE VERTICAL BARbORTH EAST WHITE ARROWgWEST WHITE ARROWaSOUTH EAST WHITE ARROW",
     "gWEST WHITE ARROWaLEFT RIGHT WHITE ARROWeWARDS BLACK ARROWaUPWARDS BLACK ARROW",
     "aDOWNWARDS BLACK ARROWaNORTH EAST BLACK ARROWgWEST BLACK ARROWaSOUTH EAST BLACK ARROW",
     "gWEST BLACK ARROWaLEFT RIGHT BLACK ARROWaUP DOWN BLACK ARROW",
     "aRIGHTWARDS ARROW WITH TIP DOWNWARDS!UPWARDSaLEFTWARDS ARROW WITH TIP DOWNWARDSzUPWARDS",
     "aSQUARE WITH TOP HALF BLACKmBOTTOM HALF BLACKmUPPER RIGHT DIAGONAL HALF BLACK",
     "mLOWER LEFT DIAGONAL HALF BLACKaDIAMOND WITH LEFT HALF BLACKnRIGHT HALF BLACK",
     "nTOP HALF BLACKnBOTTOM HALF BLACKbOTTED SQUAREaBLACK LARGE SQUAREaWHITE LARGE SQUARE",
     "aBLACK VERY SMALL SQUAREaWHITE VERY SMALL SQUAREaBLACK PENTAGONaWHITE PENTAGONgHEXAGON",
     "aBLACK HEXAGONaHORIZONTAL BLACK HEXAGONaBLACK LARGE CIRCLEgMEDIUM DIAMOND",
     "aWHITE MEDIUM DIAMONDaBLACK MEDIUM LOZENGEaWHITE MEDIUM LOZENGEaBLACK SMALL DIAMOND",
     "mLOZENGEaWHITE SMALL LOZENGEaBLACK HORIZONTAL ELLIPSEaWHITE HORIZONTAL ELLIPSE",
     "aBLACK VERTICAL ELLIPSEaWHITE VERTICAL ELLIPSEaLEFT ARROW WITH SMALL CIRCLE",
     "aTHREE LEFTWARDS ARROWSaLEFT ARROW WITH CIRCLED PLUSbONG LEFTWARDS SQUIGGLE ARROW",
     "bEFTWARDS TWO-HEADED ARROW WITH VERTICAL STROKE,DOUBLE VERTICAL STROKE$FROM BAR",
     "vTRIPLE DASH ARROWkARROW WITH DOTTED STEMvTAIL WITH VERTICAL STROKE+DOUBLE VERTICAL STROKE",
     "kTWO-HEADED ARROW WITH TAIL; WITH VERTICAL STROKE^DOUBLE VERTICAL STROKEkARROW THROUGH X",
     "aWAVE ARROW POINTING DIRECTLY LEFTaEQUALS SIGN ABOVE LEFTWARDS ARROW",
     "aREVERSE TILDE OPERATOR ABOVE LEFTWARDS ARROW",
     "aLEFTWARDS ARROW ABOVE REVERSE ALMOST EQUAL TOaRIGHTWARDS ARROW THROUGH GREATER-THAN",
     "zSUPERSETaLEFTWARDS QUADRUPLE ARROWaRIGHTWARDS QUADRUPLE ARROW",
     "bEVERSE TILDE OPERATOR ABOVE RIGHTWARDS ARROW",
     "bIGHTWARDS ARROW ABOVE REVERSE ALMOST EQUAL TOaTILDE OPERATOR ABOVE LEFTWARDS ARROW",
     "aLEFTWARDS ARROW ABOVE ALMOST EQUAL TOwREVERSE TILDE OPERATOR",
     "aRIGHTWARDS ARROW ABOVE REVERSE TILDE OPERATORaDOWNWARDS TRIANGLE-HEADED ZIGZAG ARROW",
     "aSHORT SLANTED NORTH ARROWgBACKSLANTED SOUTH ARROWaWHITE MEDIUM STARaBLACK SMALL STAR",
     "aWHITE SMALL STARaBLACK RIGHT-POINTING PENTAGONaWHITE RIGHT-POINTING PENTAGON",
     "aHEAVY LARGE CIRCLEgOVAL WITH OVAL INSIDEgCIRCLE WITH CIRCLE INSIDEmmD SALTIRE",
     "aSLANTED NORTH ARROW WITH HOOKED HEADaBACKSLANTED SOUTH ARROW WITH HOOKED TAIL",
     "aSLANTED NORTH ARROW WITH HORIZONTAL TAILaBACKSLANTED SOUTH ARROW WITH HORIZONTAL TAIL",
     "bENT ARROW POINTING DOWNWARDS THEN NORTH EAST",
     "aSHORT BENT ARROW POINTING DOWNWARDS THEN NORTH EASTaLEFTWARDS TRIANGLE-HEADED ARROW",
     "aUPWARDS TRIANGLE-HEADED ARROWaRIGHTWARDS TRIANGLE-HEADED ARROW",
     "aDOWNWARDS TRIANGLE-HEADED ARROWaLEFT RIGHT TRIANGLE-HEADED ARROW",
     "aUP DOWN TRIANGLE-HEADED ARROWaNORTH WEST TRIANGLE-HEADED ARROWgEAST TRIANGLE-HEADED ARROW",
     "aSOUTH EAST TRIANGLE-HEADED ARROWgWEST TRIANGLE-HEADED ARROW",
     "aLEFTWARDS TRIANGLE-HEADED DASHED ARROWaUPWARDS TRIANGLE-HEADED DASHED ARROW",
     "aRIGHTWARDS TRIANGLE-HEADED DASHED ARROWaDOWNWARDS TRIANGLE-HEADED DASHED ARROW",
     "aCLOCKWISE TRIANGLE-HEADED OPEN CIRCLE ARROW",
     "aANTICLOCKWISE TRIANGLE-HEADED OPEN CIRCLE ARROWaLEFTWARDS TRIANGLE-HEADED ARROW TO BAR",
     "aUPWARDS TRIANGLE-HEADED ARROW TO BARaRIGHTWARDS TRIANGLE-HEADED ARROW TO BAR",
     "aDOWNWARDS TRIANGLE-HEADED ARROW TO BAR"]),
   (0x2b76, [
     "aNORTH WEST TRIANGLE-HEADED ARROW TO BARgEAST TRIANGLE-HEADED ARROW TO BAR",
     "aSOUTH EAST TRIANGLE-HEADED ARROW TO BARgWEST TRIANGLE-HEADED ARROW TO BAR",
     "aLEFTWARDS TRIANGLE-HEADED ARROW WITH DOUBLE HORIZONTAL STROKE",
     "aUPWARDS TRIANGLE-HEADED ARROW WITH DOUBLE HORIZONTAL STROKE",
     "aRIGHTWARDS TRIANGLE-HEADED ARROW WITH DOUBLE HORIZONTAL STROKE",
     "aDOWNWARDS TRIANGLE-HEADED ARROW WITH DOUBLE HORIZONTAL STROKEaHORIZONTAL TAB KEY",
     "aVERTICAL TAB KEYaLEFTWARDS TRIANGLE-HEADED ARROW OVER RIGHTWARDS TRIANGLE-HEADED ARROW",
     "aUPWARDS TRIANGLE-HEADED ARROW LEFTWARDS OF DOWNWARDS TRIANGLE-HEADED ARROW",
     "aRIGHTWARDS TRIANGLE-HEADED ARROW OVER LEFTWARDS TRIANGLE-HEADED ARROW",
     "aDOWNWARDS TRIANGLE-HEADED ARROW LEFTWARDS OF UPWARDS TRIANGLE-HEADED ARROW",
     "aLEFTWARDS TRIANGLE-HEADED PAIRED ARROWSaUPWARDS TRIANGLE-HEADED PAIRED ARROWS",
     "aRIGHTWARDS TRIANGLE-HEADED PAIRED ARROWSaDOWNWARDS TRIANGLE-HEADED PAIRED ARROWS",
     "aLEFTWARDS BLACK CIRCLED WHITE ARROWaUPWARDS BLACK CIRCLED WHITE ARROW",
     "aRIGHTWARDS BLACK CIRCLED WHITE ARROWaDOWNWARDS BLACK CIRCLED WHITE ARROW",
     "aANTICLOCKWISE TRIANGLE-HEADED RIGHT U-SHAPED ARROW*BOTTOM U-SHAPED ARROW",
     "*LEFT U-SHAPED ARROW*TOP U-SHAPED ARROWaRETURN LEFThRIGHTaNEWLINE LEFTiRIGHT",
     "aFOUR CORNER ARROWS CIRCLING ANTICLOCKWISEaRIGHTWARDS BLACK ARROW"]),
   (0x2b97, [
     "aSYMBOL FOR TYPE A ELECTRONICSaTHREE-D TOP-LIGHTED LEFTWARDS EQUILATERAL ARROWHEAD",
     "iRIGHT-LIGHTED UPWARDS EQUILATERAL ARROWHEADiTOP-LIGHTED RIGHTWARDS EQUILATERAL ARROWHEAD",
     "iLEFT-LIGHTED DOWNWARDS EQUILATERAL ARROWHEADaBLACK LEFTWARDS EQUILATERAL ARROWHEAD",
     "gUPWARDS EQUILATERAL ARROWHEADgRIGHTWARDS EQUILATERAL ARROWHEAD",
     "gDOWNWARDS EQUILATERAL ARROWHEADaDOWNWARDS TRIANGLE-HEADED ARROW WITH LONG TIP LEFTWARDS",
     "~ RIGHTWARDSaUPWARDS TRIANGLE-HEADED ARROW WITH LONG TIP LEFTWARDS|RIGHTWARDS",
     "aLEFTWARDS TRIANGLE-HEADED ARROW WITH LONG TIP UPWARDS",
     "aRIGHTWARDS TRIANGLE-HEADED ARROW WITH LONG TIP UPWARDS",
     "aLEFTWARDS TRIANGLE-HEADED ARROW WITH LONG TIP DOWNWARDS",
     "aRIGHTWARDS TRIANGLE-HEADED ARROW WITH LONG TIP DOWNWARDS",
     "aBLACK CURVED DOWNWARDS AND LEFTWARDS ARROW$RIGHTWARDS ARROWnUPWARDS AND LEFTWARDS ARROW",
     "zRIGHTWARDS ARROWnLEFTWARDS AND UPWARDS ARROWnRIGHTWARDS AND UPWARDS ARROW",
     "nLEFTWARDS AND DOWNWARDS ARROWnRIGHTWARDS AND DOWNWARDS ARROWaRIBBON ARROW DOWN LEFTsRIGHT",
     "nUP LEFTqRIGHTnLEFT UPnRIGHT UPnLEFT DOWNnRIGHT DOWN",
     "aUPWARDS WHITE ARROW FROM BAR WITH HORIZONTAL BARc ARROWHEAD IN A RECTANGLE BOX",
     "aOVERLAPPING WHITE SQUARESsAND BLACK SQUARESmBLACK SQUARESaBALLOT BOX WITH LIGHT X",
     "aCIRCLED XiBOLD XaBLACK SQUARE CENTREDgDIAMOND CENTREDaTURNED BLACK PENTAGON",
     "aHORIZONTAL BLACK OCTAGONaBLACK OCTAGONgMEDIUM UP-POINTING TRIANGLE CENTRED",
     "nDOWN-POINTING TRIANGLE CENTREDnLEFT-POINTING TRIANGLE CENTRED",
     "nRIGHT-POINTING TRIANGLE CENTREDaNEPTUNE FORM TWOaTOP HALF BLACK CIRCLE",
     "aBOTTOM HALF BLACK CIRCLEaLIGHT FOUR POINTED BLACK CUSP",
     "aROTATED LIGHT FOUR POINTED BLACK CUSPaWHITE FOUR POINTED CUSP",
     "aROTATED WHITE FOUR POINTED CUSPaSQUARE POSITION INDICATORaUNCERTAINTY SIGNaGROUP MARK",
     "aPLUTO FORM TWOmHREElFOURmIVEaTRANSPLUTOaPROSERPINAaASTRAEAaHYGIEAaPHOLUSaNESSUS",
     "aWHITE MOON SELENAaBLACK DIAMOND ON CROSSaTRUE LIGHT MOON ARTAaCUPIDOaHADESaZEUSaKRONOS",
     "aAPOLLONbDMETOSaVULCANUSaPOSEIDONaLEFT HALF BLACK STARaRIGHT HALF BLACK STAR",
     "aSTAR WITH LEFT HALF BLACKkRIGHT HALF BLACK",
     "aLEFTWARDS TWO-HEADED ARROW WITH TRIANGLE ARROWHEADS",
     "aUPWARDS TWO-HEADED ARROW WITH TRIANGLE ARROWHEADS",
     "aRIGHTWARDS TWO-HEADED ARROW WITH TRIANGLE ARROWHEADS",
     "aDOWNWARDS TWO-HEADED ARROW WITH TRIANGLE ARROWHEADSaERIS FORM ONEkTWOaSEDNA",
     "aRUSSIAN ASTROLOGICAL SYMBOL VIGINTILE%NOVILE%QUINTILE%BINOVILE%SENTAGON%TREDECILE",
     "aEQUALS SIGN WITH INFINITY BELOWaUNITED SYMBOLaSEPARATED SYMBOLaDOUBLED SYMBOL",
     "aPASSED SYMBOLaREVERSED RIGHT ANGLEaHELLSCHREIBER PAUSE SYMBOL",
     "aGLAGOLITIC CAPITAL LETTER AZU!BUKY!VEDE!GLAGOLI!DOBRO!YESTU!ZHIVETE!DZELO!ZEMLJA!IZHE",
     "$NITIAL IZHE$!DJERVI!KAKO!LJUDIJE!MYSLITE!NASHI!ONU!POKOJI!RITSI!SLOVO!TVRIDO!UKU!FRITU",
     "!HERU!OTU!PE!SHTA!TSI!CHRIVI!SHA!YERU&I$ATI!SPIDERY HA!YU!SMALL YUS: WITH TAIL!YO",
     "!IOTATED SMALL YUS!BIG YUS!IOTATED BIG YUS!FITA!IZHITSA!SHTAPIC!TROKUTASTI A",
     "!LATINATE MYSLITE!CAUDATE CHRIVIlSMALL LETTER AZUyBUKYyVEDEyGLAGOLIyDOBROyYESTUyZHIVETE",
     "yDZELOyZEMLJAyIZHEzNITIAL IZHEzyDJERVIyKAKOyLJUDIJEyMYSLITEyNASHIyONUyPOKOJIyRITSIySLOVO",
     "yTVRIDOyUKUyFRITUyHERUyOTUyPEySHTAyTSIyCHRIVIySHAyYERU$IzATIySPIDERY HAyYUySMALL YUS",
     ". WITH TAILyYOyIOTATED SMALL YUSyBIG YUSyIOTATED BIG YUSyFITAyIZHITSAySHTAPICyTROKUTASTI A",
     "yLATINATE MYSLITEyCAUDATE CHRIVIaLATIN CAPITAL LETTER L WITH DOUBLE BAR",
     "gSMALL LETTER L WITH DOUBLE BARgCAPITAL LETTER L WITH MIDDLE TILDEvP WITH STROKE",
     "vR WITH TAILgSMALL LETTER A WITH STROKEtT WITH DIAGONAL STROKE",
     "gCAPITAL LETTER H WITH DESCENDERgSMALL LETTER H WITH DESCENDER",
     "gCAPITAL LETTER K WITH DESCENDERgSMALL LETTER K WITH DESCENDER",
     "gCAPITAL LETTER Z WITH DESCENDERgSMALL LETTER Z WITH DESCENDERgCAPITAL LETTER ALPHA",
     "vM WITH HOOKvTURNED A&LPHAgSMALL LETTER V WITH RIGHT HOOKgCAPITAL LETTER W WITH HOOK",
     "gSMALL LETTER W WITH HOOKtV WITH CURLgCAPITAL LETTER HALF HgSMALL LETTER HALF H",
     "tTAILLESS PHItE WITH NOTCHtTURNED R WITH TAILtO WITH LOW RING INSIDE",
     "gLETTER SMALL CAPITAL TURNED EgSUBSCRIPT SMALL LETTER JaMODIFIER LETTER CAPITAL V",
     "aLATIN CAPITAL LETTER S WITH SWASH TAILvZ WITH SWASH TAILaCOPTIC CAPITAL LETTER ALFA",
     "hSMALL LETTER ALFAhCAPITAL LETTER VIDAhSMALL LETTER VIDAhCAPITAL LETTER GAMMA",
     "hSMALL LETTER GAMMAhCAPITAL LETTER DALDAhSMALL LETTER DALDAhCAPITAL LETTER EIE",
     "hSMALL LETTER EIEhCAPITAL LETTER SOUhSMALL LETTER SOUhCAPITAL LETTER ZATA",
     "hSMALL LETTER ZATAhCAPITAL LETTER HATEhSMALL LETTER HATEhCAPITAL LETTER THETHE",
     "hSMALL LETTER THETHEhCAPITAL LETTER IAUDAhSMALL LETTER IAUDAhCAPITAL LETTER KAPA",
     "hSMALL LETTER KAPAhCAPITAL LETTER LAULAhSMALL LETTER LAULAhCAPITAL LETTER MI",
     "hSMALL LETTER MIhCAPITAL LETTER NIhSMALL LETTER NIhCAPITAL LETTER KSIhSMALL LETTER KSI",
     "hCAPITAL LETTER OhSMALL LETTER OhCAPITAL LETTER PIhSMALL LETTER PIhCAPITAL LETTER RO",
     "hSMALL LETTER ROhCAPITAL LETTER SIMAhSMALL LETTER SIMAhCAPITAL LETTER TAUhSMALL LETTER TAU",
     "hCAPITAL LETTER UAhSMALL LETTER UAhCAPITAL LETTER FIhSMALL LETTER FIhCAPITAL LETTER KHI",
     "hSMALL LETTER KHIhCAPITAL LETTER PSIhSMALL LETTER PSIhCAPITAL LETTER OOUhSMALL LETTER OOU",
     "hCAPITAL LETTER DIALECT-P ALEFhSMALL LETTER DIALECT-P ALEFhCAPITAL LETTER OLD COPTIC AIN",
     "hSMALL LETTER OLD COPTIC AINhCAPITAL LETTER CRYPTOGRAMMIC EIE",
     "hSMALL LETTER CRYPTOGRAMMIC EIEhCAPITAL LETTER DIALECT-P KAPAhSMALL LETTER DIALECT-P KAPA",
     "hCAPITAL LETTER DIALECT-P NIhSMALL LETTER DIALECT-P NIhCAPITAL LETTER CRYPTOGRAMMIC NI",
     "hSMALL LETTER CRYPTOGRAMMIC NIhCAPITAL LETTER OLD COPTIC OOUhSMALL LETTER OLD COPTIC OOU",
     "hCAPITAL LETTER SAMPIhSMALL LETTER SAMPIhCAPITAL LETTER CROSSED SHEI",
     "hSMALL LETTER CROSSED SHEIhCAPITAL LETTER OLD COPTIC SHEIhSMALL LETTER OLD COPTIC SHEI",
     "hCAPITAL LETTER OLD COPTIC ESHhSMALL LETTER OLD COPTIC ESHhCAPITAL LETTER AKHMIMIC KHEI",
     "hSMALL LETTER AKHMIMIC KHEIhCAPITAL LETTER DIALECT-P HORIhSMALL LETTER DIALECT-P HORI",
     "hCAPITAL LETTER OLD COPTIC HORIhSMALL LETTER OLD COPTIC HORIhCAPITAL LETTER OLD COPTIC HA",
     "hSMALL LETTER OLD COPTIC HAhCAPITAL LETTER L-SHAPED HAhSMALL LETTER L-SHAPED HA",
     "hCAPITAL LETTER OLD COPTIC HEIhSMALL LETTER OLD COPTIC HEIhCAPITAL LETTER OLD COPTIC HAT",
     "hSMALL LETTER OLD COPTIC HAThCAPITAL LETTER OLD COPTIC GANGIA",
     "hSMALL LETTER OLD COPTIC GANGIAhCAPITAL LETTER OLD COPTIC DJAhSMALL LETTER OLD COPTIC DJA",
     "hCAPITAL LETTER OLD COPTIC SHIMAhSMALL LETTER OLD COPTIC SHIMA",
     "hCAPITAL LETTER OLD NUBIAN SHIMAhSMALL LETTER OLD NUBIAN SHIMA",
     "hCAPITAL LETTER OLD NUBIAN NGIhSMALL LETTER OLD NUBIAN NGIhCAPITAL LETTER OLD NUBIAN NYI",
     "hSMALL LETTER OLD NUBIAN NYIhCAPITAL LETTER OLD NUBIAN WAUhSMALL LETTER OLD NUBIAN WAU",
     "iYMBOL KAIoMI ROoPI ROoSTAUROSoTAU ROoKHI ROoSHIMA SIMAhCAPITAL LETTER CRYPTOGRAMMIC SHEI",
     "hSMALL LETTER CRYPTOGRAMMIC SHEIhCAPITAL LETTER CRYPTOGRAMMIC GANGIA",
     "hSMALL LETTER CRYPTOGRAMMIC GANGIAhCOMBINING NI ABOVErSPIRITUS ASPER!LENIS",
     "iAPITAL LETTER BOHAIRIC KHEIhSMALL LETTER BOHAIRIC KHEI"])]

end TokenTemplate.Unicode
