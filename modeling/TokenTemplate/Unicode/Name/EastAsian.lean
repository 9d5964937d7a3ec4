import TokenTemplate.Unicode.Name.Run

/-!
# Names of East Asian scripts

The names that version 14 of the standard gives to characters:
the scripts of East Asia, and forms for compatibility.
-/

namespace TokenTemplate.Unicode

/-- Runs of characters with their names. -/
def eastAsianNames : List NameRun :=
  [(0x2cf9, [
     "aCOPTIC OLD NUBIAN FULL STOPsDIRECT QUESTION MARKsINDIRECT QUESTION MARKsVERSE DIVIDER",
     "hFRACTION ONE HALFiULL STOPhMORPHOLOGICAL DIVIDERaGEORGIAN SMALL LETTER ANwBANwGANwDONwEN",
     "wVINwZENwTANwINwKANwLASwMANwNARwONwPARwZHARwRAEwSANwTARwUNwPHARwKHARwGHANwQARwSHINwCHINxAN",
     "wJILwCILxHARwXANwJHANwHAExExIEwWEwHARxOE"]),
   (0x2d27, ["aGEORGIAN SMALL LETTER YN"]),
   (0x2d2d, ["aGEORGIAN SMALL LETTER AEN"]),
   (0x2d30, [
     "aTIFINAGH LETTER YAsBtHsGtHHqBERBER ACADEMY YAJqYAJsDtHtDuHrEYrAFsKqTUAREG YAKqYAKHHsH",
     "qBERBER ACADEMY YAHqTUAREG YAHqYAHHsAsKHqTUAREG YAKHqYAQqTUAREG YAQqYIrAZHqAHAGGAR YAZH",
     "qTUAREG YAZHqYALsMsNqTUAREG YAGNzNGqYAPrUrARtRsGHqTUAREG YAGHqAYER YAGHqYAStStHsTtHsCHsTT",
     "sVsWsYsZqTAWELLEMET YAZqYAZZrErO"]),
   (0x2d6f, ["aTIFINAGH MODIFIER LETTER LABIALIZATION MARKjSEPARATOR MARK"]),
   (0x2d7f, [
     "aTIFINAGH CONSONANT JOINERaETHIOPIC SYLLABLE LOAsMOAsROAsSOAtHOAsBOAsTOAsCOAsNOAtYOA",
     "sGLOTTAL OAsZOAsDOAtDOAsJOAsTHOAsCHOAsPHOAtOAsGGWAvIvEEw"]),
   (0x2da0, ["aETHIOPIC SYLLABLE SSAuUuIuAAuEEvuO"]),
   (0x2da8, ["aETHIOPIC SYLLABLE CCAuUuIuAAuEEvuO"]),
   (0x2db0, ["aETHIOPIC SYLLABLE ZZAuUuIuAAuEEvuO"]),
   (0x2db8, ["aETHIOPIC SYLLABLE CCHAvUvIvAAvEEwvO"]),
   (0x2dc0, ["aETHIOPIC SYLLABLE QYAuUuIuAAuEEvuO"]),
   (0x2dc8, ["aETHIOPIC SYLLABLE KYAuUuIuAAuEEvuO"]),
   (0x2dd0, ["aETHIOPIC SYLLABLE XYAuUuIuAAuEEvuO"]),
   (0x2dd8, ["aETHIOPIC SYLLABLE GYAuUuIuAAuEEvuO"]),
   (0x2de0, [
     "aCOMBINING CYRILLIC LETTER BE!VE!GHE!DE!ZHE$E!KA!EL$M$N!O!PE!ER$S!TE!HA!TSE!CHE!SHA%CHA",
     "!FITA!ES-TE!A!IE!DJERV!MONOGRAPH UK!YAT$U!IOTIFIED A!LITTLE YUS!BIG YUS!IOTIFIED BIG YUS",
     "aRIGHT ANGLE SUBSTITUTION MARKERmDOTTED SUBSTITUTION MARKERaLEFT SUBSTITUTION BRACKET",
     "aRIGHT SUBSTITUTION BRACKETaLEFT DOTTED SUBSTITUTION BRACKET",
     "aRIGHT DOTTED SUBSTITUTION BRACKETbAISED INTERPOLATION MARKERhDOTTED INTERPOLATION MARKER",
     "aDOTTED TRANSPOSITION MARKERaLEFT TRANSPOSITION BRACKETaRIGHT TRANSPOSITION BRACKET",
     "bAISED SQUAREaLEFT RAISED OMISSION BRACKETaRIGHT RAISED OMISSION BRACKETaEDITORIAL CORONIS",
     "aPARAGRAPHOSaFORKED PARAGRAPHOSaREVERSED FORKED PARAGRAPHOSaHYPODIASTOLEaDOTTED OBELOS",
     "cWNWARDS ANCORAaUPWARDS ANCORAaDOTTED RIGHT-POINTING ANGLEcUBLE OBLIQUE HYPHEN",
     "aINVERTED INTERROBANGaPALM BRANCHaHYPHEN WITH DIAERESISaTILDE WITH RING ABOVE",
     "aLEFT LOW PARAPHRASE BRACKETaRIGHT LOW PARAPHRASE BRACKETaTILDE WITH DOT ABOVEpBELOW",
     "aLEFT VERTICAL BAR WITH QUILLaRIGHT VERTICAL BAR WITH QUILLaTOP LEFT HALF BRACKET",
     "eRIGHT HALF BRACKETaBOTTOM LEFT HALF BRACKEThRIGHT HALF BRACKETaLEFT SIDEWAYS U BRACKET",
     "aRIGHT SIDEWAYS U BRACKETaLEFT DOUBLE PARENTHESISaRIGHT DOUBLE PARENTHESIS",
     "aTWO DOTS OVER ONE DOT PUNCTUATIONaONE DOT OVER TWO DOTS PUNCTUATION",
     "aSQUARED FOUR DOT PUNCTUATIONaFIVE DOT MARKaREVERSED QUESTION MARKaVERTICAL TILDE",
     "aRING POINTaWORD SEPARATOR MIDDLE DOTaTURNED COMMAaRAISED DOThCOMMAaTURNED SEMICOLON",
     "aDAGGER WITH LEFT GUARDmRIGHT GUARDaTURNED DAGGERbOP HALF SECTION SIGNbWO-EM DASH",
     "bHREE-EM DASHaSTENOGRAPHIC FULL STOPaVERTICAL SIX DOTSaWIGGLY VERTICAL LINEaCAPITULUM",
     "aDOUBLE HYPHENaREVERSED COMMAaDOUBLE LOW-REVERSED-9 QUOTATION MARKbASH WITH LEFT UPTURN",
     "bOUBLE SUSPENSION MARKaINVERTED LOW KAVYKAt WITH KAVYKA ABOVEaLOW KAVYKAk WITH DOT",
     "aDOUBLE STACKED COMMAcTTED SOLIDUSaTRIPLE DAGGERaMEDIEVAL COMMAaPARAGRAPHUS MARK",
     "bUNCTUS ELEVATUS MARKaCORNISH VERSE DIVIDERbROSS PATTY WITH RIGHT CROSSBARrLEFT CROSSBAR",
     "aTIRONIAN SIGN CAPITAL ETaMEDIEVAL EXCLAMATION MARKjQUESTION MARK",
     "aLEFT SQUARE BRACKET WITH STROKEaRIGHT SQUARE BRACKET WITH STROKE",
     "aLEFT SQUARE BRACKET WITH DOUBLE STROKEaRIGHT SQUARE BRACKET WITH DOUBLE STROKE",
     "aTOP HALF LEFT PARENTHESISjRIGHT PARENTHESISaBOTTOM HALF LEFT PARENTHESIS",
     "mRIGHT PARENTHESISaOBLIQUE HYPHEN"]),
   (0x2e80, [
     "aCJK RADICAL REPEATmCLIFFmSECOND ONEtTWOuHREEmPERSONmBOXmTABLEmKNIFE ONEsTWOmDIVINATION",
     "mSEALnMALL ONEsTWOmLAME ONErTWOsHREErFOURmSNAKEmTHREADmSNOUT ONEsTWOmHEART ONEsTWOnANDmRAP"]),
   (0x2e9b, [
     "aCJK RADICAL CHOKEmSUNmMOONmDEATHmMOTHERmCIVILIANmWATER ONEsTWOmFIREmPAW ONEqTWO",
     "mSIMPLIFIED HALF TREE TRUNKmCOWmDOGmJADEmBOLT OF CLOTHmEYEmSPIRIT ONEtTWOmBAMBOOmSILK",
     "mC-SIMPLIFIED SILKmNET ONEqTWOrHREEqFOURmMESHmSHEEPmRAMmEWEmOLDmBRUSH ONEsTWOmMEATnORTAR",
     "mGRASS ONEsTWOtHREEmTIGERmCLOTHESmWEST ONErTWOmC-SIMPLIFIED SEEmSIMPLIFIED HORNmHORN",
     "mC-SIMPLIFIED SPEECH!HELLmFOOTmC-SIMPLIFIED CARTmSIMPLIFIED WALKmWALK ONErTWOmCITY",
     "n-SIMPLIFIED GOLDmLONG ONErTWOmC-SIMPLIFIED LONGzGATEmMOUND ONEsTWOmRAINmBLUE",
     "mC-SIMPLIFIED TANNED LEATHERzLEAFzWINDzFLYmEAT ONEqTWOrHREEmC-SIMPLIFIED EATmHEAD",
     "mC-SIMPLIFIED HORSEmBONEmGHOSTmC-SIMPLIFIED FISHzBIRDzSALTmSIMPLIFIED WHEATxYELLOW",
     "mC-SIMPLIFIED FROGmJ-SIMPLIFIED EVENmC-SIMPLIFIED EVENmJ-SIMPLIFIED TOOTH",
     "mC-SIMPLIFIED TOOTHmJ-SIMPLIFIED DRAGONmC-SIMPLIFIED DRAGONmTURTLEmJ-SIMPLIFIED TURTLE",
     "mC-SIMPLIFIED TURTLE"]),
   (0x2f00, [
     "aKANGXI RADICAL ONEpLINEpDOTpSLASHqECONDpHOOKpTWOpLIDpMANpLEGSpENTERqIGHTpDOWN BOXpCOVER",
     "pICEpTABLEpOPEN BOXpKNIFEpPOWERpWRAPpSPOONpRIGHT OPEN BOXpHIDING ENCLOSUREpTENpDIVINATION",
     "pSEALpCLIFFpPRIVATEpAGAINpMOUTHpENCLOSUREqARTHpSCHOLARpGOr SLOWLYpEVENINGpBIGpWOMANpCHILD",
     "pROOFpINCHpSMALLpLAMEpCORPSEpSPROUTpMOUNTAINpRIVERpWORKpONESELFpTURBANpDRYpSHORT THREAD",
     "pDOTTED CLIFFpLONG STRIDEpTWO HANDSpSHOOTpBOWpSNOUTpBRISTLEpSTEPpHEARTqALBERDpDOORpHAND",
     "pBRANCHpRAPpSCRIPTpDIPPERpAXEpSQUAREpNOTpSUNqAYpMOONpTREEpLACKpSTOPpDEATHpWEAPONpDO NOT",
     "pCOMPAREpFURpCLANpSTEAMpWATERpFIREpCLAWpFATHERpDOUBLE XpHALF TREE TRUNKpSLICEpFANGpCOWpDOG",
     "pPROFOUNDpJADEpMELONpTILEpSWEETpLIFEpUSEpFIELDpBOLT OF CLOTHpSICKNESSpDOTTED TENTpWHITE",
     "pSKINpDISHpEYEpSPEARpARROWpSTONEqPIRITpTRACKpGRAINpCAVEpSTANDpBAMBOOpRICEpSILKpJARpNET",
     "pSHEEPpFEATHERpOLDpANDpPLOWpEARpBRUSHpMEATqINISTERpSELFpARRIVEpMORTARpTONGUEpOPPOSEpBOAT",
     "pSTOPPINGpCOLORpGRASSpTIGERpINSECTpBLOODpWALK ENCLOSUREpCLOTHESpWESTpSEEpHORNpSPEECH",
     "pVALLEYpBEANpPIGpBADGERpSHELLpREDqUNpFOOTpBODYpCARTpBITTERpMORNINGpWALKpCITYpWINE",
     "pDISTINGUISHpVILLAGEpGOLDpLONGpGATEpMOUNDpSLAVEqHORT TAILED BIRDpRAINpBLUEpWRONGpFACE",
     "pLEATHERpTANNED LEATHERpLEEKpSOUNDpLEAFpWINDpFLYpEATpHEADpFRAGRANTpHORSEpBONEpTALLpHAIR",
     "pFIGHTpSACRIFICIAL WINEpCAULDRONpGHOSTpFISHpBIRDpSALTpDEERpWHEATpHEMPpYELLOWpMILLETpBLACK",
     "pEMBROIDERYpFROGpTRIPODpDRUMpRATpNOSEpEVENpTOOTHpDRAGONpTURTLEpFLUTE"]),
   (0x2ff0, [
     "aIDEOGRAPHIC DESCRIPTION CHARACTER LEFT TO RIGHT/ABOVE TO BELOW/LEFT TO MIDDLE AND RIGHT",
     "/ABOVE TO MIDDLE AND BELOW/FULL SURROUND/SURROUND FROM ABOVE~OM BELOW~OM LEFT",
     "~OM UPPER LEFT~OM UPPER RIGHT~OM LOWER LEFT/OVERLAID"]),
   (0x3000, [
     "aIDEOGRAPHIC SPACEmCOMMAmFULL STOPaDITTO MARKaJAPANESE INDUSTRIAL STANDARD SYMBOL",
     "aIDEOGRAPHIC ITERATION MARKmCLOSING MARKmNUMBER ZEROaLEFT ANGLE BRACKET",
     "aRIGHT ANGLE BRACKETaLEFT DOUBLE ANGLE BRACKETaRIGHT DOUBLE ANGLE BRACKET",
     "aLEFT CORNER BRACKETaRIGHT CORNER BRACKETaLEFT WHITE CORNER BRACKET",
     "aRIGHT WHITE CORNER BRACKETaLEFT BLACK LENTICULAR BRACKETaRIGHT BLACK LENTICULAR BRACKET",
     "aPOSTAL MARKaGETA MARKaLEFT TORTOISE SHELL BRACKETaRIGHT TORTOISE SHELL BRACKET",
     "aLEFT WHITE LENTICULAR BRACKETaRIGHT WHITE LENTICULAR BRACKET",
     "aLEFT WHITE TORTOISE SHELL BRACKETaRIGHT WHITE TORTOISE SHELL BRACKET",
     "aLEFT WHITE SQUARE BRACKETaRIGHT WHITE SQUARE BRACKETaWAVE DASH",
     "aREVERSED DOUBLE PRIME QUOTATION MARKaDOUBLE PRIME QUOTATION MARK",
     "aLOW DOUBLE PRIME QUOTATION MARKaPOSTAL MARK FACEaHANGZHOU NUMERAL ONErTWOsHREErFOURsIVE",
     "rSIXsEVENrEIGHTrNINEaIDEOGRAPHIC LEVEL TONE MARKmRISING TONE MARKmDEPARTING TONE MARK",
     "mENTERING TONE MARKaHANGUL SINGLE DOT TONE MARKhDOUBLE DOT TONE MARKaWAVY DASH",
     "aVERTICAL KANA REPEAT MARKvWITH VOICED SOUND MARKvMARK UPPER HALF",
     "vWITH VOICED SOUND MARK UPPER HALFvMARK LOWER HALFaCIRCLED POSTAL MARK",
     "aIDEOGRAPHIC TELEGRAPH LINE FEED SEPARATOR SYMBOLaHANGZHOU NUMERAL TENsWENTYsHIRTY",
     "aVERTICAL IDEOGRAPHIC ITERATION MARKaMASU MARKaPART ALTERNATION MARK",
     "aIDEOGRAPHIC VARIATION INDICATORmHALF FILL SPACE"]),
   (0x3041, [
     "aHIRAGANA LETTER SMALL AqAqSMALL IqIqSMALL UqUqSMALL EqEqSMALL OqOqKAqGAqKIqGIqKUqGUqKEqGE",
     "qKOqGOqSAqZAqSIqZIqSUqZUqSEqZEqSOqZOqTAqDAqTIqDIqSMALL TUqTUqDUqTEqDEqTOqDOqNArIrUrErOqHA",
     "qBAqPAqHIqBIqPIqHUqBUqPUqHEqBEqPEqHOqBOqPOqMArIrUrErOqSMALL YAqYAqSMALL YUqYUqSMALL YOqYO",
     "qRArIrUrErOqSMALL WAqWArIrErOqNqVUqSMALL KAxE"]),
   (0x3099, [
     "aCOMBINING KATAKANA-HIRAGANA VOICED SOUND MARK%SEMI-VOICED SOUND MARK",
     "aKATAKANA-HIRAGANA VOICED SOUND MARKsSEMI-VOICED SOUND MARKaHIRAGANA ITERATION MARK",
     "jVOICED ITERATION MARKjDIGRAPH YORIaKATAKANA-HIRAGANA DOUBLE HYPHENi LETTER SMALL AqA",
     "qSMALL IqIqSMALL UqUqSMALL EqEqSMALL OqOqKAqGAqKIqGIqKUqGUqKEqGEqKOqGOqSAqZAqSIqZIqSUqZU",
     "qSEqZEqSOqZOqTAqDAqTIqDIqSMALL TUqTUqDUqTEqDEqTOqDOqNArIrUrErOqHAqBAqPAqHIqBIqPIqHUqBUqPU",
     "qHEqBEqPEqHOqBOqPOqMArIrUrErOqSMALL YAqYAqSMALL YUqYUqSMALL YOqYOqRArIrUrErOqSMALL WAqWArI",
     "rErOqNqVUqSMALL KAxEqVArIrErOjMIDDLE DOTi-HIRAGANA PROLONGED SOUND MARKi ITERATION MARK",
     "jVOICED ITERATION MARKjDIGRAPH KOTO"]),
   (0x3105, [
     "aBOPOMOFO LETTER BqPqMqFqDqTqNqLqGqKqHqJqQqXqZHqCHqSHqRqZqCqSqAqOqErHqAIqEIqAUqOUqANqEN",
     "qANGqENGrRqIqUqIUqVqNGqGNqIHqO WITH DOT ABOVEqNN"]),
   (0x3131, [
     "aHANGUL LETTER KIYEOKoSSANGKIYEOKoKIYEOK-SIOSoNIEUNt-CIEUCuHIEUHoTIKEUToSSANGTIKEUToRIEUL",
     "t-KIYEOKuMIEUMuPIEUPuSIOSuTHIEUTHuPHIEUPHuHIEUHoMIEUMoPIEUPoSSANGPIEUPoPIEUP-SIOSoSIOS",
     "pSANGSIOSoIEUNGoCIEUCoSSANGCIEUCoCHIEUCHoKHIEUKHoTHIEUTHoPHIEUPHoHIEUHoApEoYAqEoEOpoYEOqoO",
     "oWAqEoOEoYOoUoWEOqpIoYUoEUoYIoIhFILLERhLETTER SSANGNIEUNoNIEUN-TIKEUTuSIOSuPANSIOS",
     "oRIEUL-KIYEOK-SIOSuTIKEUTuPIEUP-SIOSvANSIOSuYEORINHIEUHoMIEUM-PIEUPuSIOSuPANSIOS",
     "oKAPYEOUNMIEUMoPIEUP-KIYEOKuTIKEUTuSIOS-KIYEOKzTIKEUTuCIEUCuTHIEUTHoKAPYEOUNPIEUP",
     "wSSANGPIEUPoSIOS-KIYEOKtNIEUNtTIKEUTtPIEUPtCIEUCoPANSIOSoSSANGIEUNGoYESIEUNGw-SIOSxPANSIOS",
     "oKAPYEOUNPHIEUPHoSSANGHIEUHoYEORINHIEUHpO-YAtErIpU-YEOtrIoARAEAtE"]),
   (0x3190, [
     "aIDEOGRAPHIC ANNOTATION LINKING MARKxREVERSE MARKxONE MARKxTWO MARKyHREE MARKxFOUR MARK",
     "xTOP MARKxMIDDLE MARKxBOTTOM MARKxFIRST MARKxSECOND MARKxTHIRD MARKxFOURTH MARK",
     "xHEAVEN MARKxEARTH MARKxMAN MARKaBOPOMOFO LETTER BUqZIqJIqGUqEErNNqOOrNNqIRqANNqINNqUNNqIM",
     "qNGGqAINNrUNNrMqOMrNGqINNNjFINAL LETTER PwTwKwHjLETTER GHqLHqZYjFINAL LETTER GjLETTER GW",
     "qKWqOEqAHaCJK STROKE TlWGlXGlBXGlSWlHZZnGmPmZWGlSZWGlHZTnZPmPWGmZWnZZlNlHlSlPlSPlDlHZmGlSZ",
     "mWZmTmGlPDmZlTNlSZZmWGlHXWGmZZZGlPGlQ"]),
   (0x31f0, [
     "aKATAKANA LETTER SMALL KUwSIxUwTOwNUwHAxIxUxExOwMUwRAxIxUxExOaPARENTHESIZED HANGUL KIYEOK",
     "vNIEUNvTIKEUTvRIEULvMIEUMvPIEUPvSIOSvIEUNGvCIEUCwHIEUCHvKHIEUKHvTHIEUTHvPHIEUPHvHIEUH",
     "vKIYEOK AvNIEUN AvTIKEUT AvRIEUL AvMIEUM AvPIEUP AvSIOS AvIEUNG AvCIEUC AwHIEUCH A",
     "vKHIEUKH AvTHIEUTH AvPHIEUPH AvHIEUH AvCIEUC UoKOREAN CHARACTER OJEON, HU"]),
   (0x3220, [
     "aPARENTHESIZED IDEOGRAPH ONEyTWOzHREEyFOURzIVEySIXzEVENyEIGHTyNINEyTENyMOONyFIREyWATERzOOD",
     "yMETALyEARTHySUNzTOCKyHAVEySOCIETYyNAMEySPECIALyFINANCIALyCONGRATULATIONyLABORyREPRESENT",
     "yCALLySTUDYzUPERVISEyENTERPRISEyRESOURCEyALLIANCEyFESTIVALyRESTySELFyREACH",
     "aCIRCLED IDEOGRAPH QUESTIONsKINDERGARTENsSCHOOLsKOTOiNUMBER TEN ON BLACK SQUARE",
     "qWENTY ON BLACK SQUAREqHIRTY ON BLACK SQUAREpFORTY ON BLACK SQUAREqIFTY ON BLACK SQUARE",
     "pSIXTY ON BLACK SQUAREqEVENTY ON BLACK SQUAREpEIGHTY ON BLACK SQUAREaPARTNERSHIP SIGN",
     "aCIRCLED NUMBER TWENTY ONEwTWOxHREEwFOURxIVEwSIXxEVENwEIGHTwNINEqHIRTYv ONEwTWOxHREEwFOUR",
     "xIVEiHANGUL KIYEOKpNIEUNpTIKEUTpRIEULpMIEUMpPIEUPpSIOSpIEUNGpCIEUCqHIEUCHpKHIEUKHpTHIEUTH",
     "pPHIEUPHpHIEUHpKIYEOK ApNIEUN ApTIKEUT ApRIEUL ApMIEUM ApPIEUP ApSIOS ApIEUNG ApCIEUC A",
     "qHIEUCH ApKHIEUKH ApTHIEUTH ApPHIEUPH ApHIEUH AiKOREAN CHARACTER CHAMKOzJUEUI",
     "iHANGUL IEUNG UaKOREAN STANDARD SYMBOLaCIRCLED IDEOGRAPH ONEsTWOtHREEsFOURtIVEsSIXtEVEN",
     "sEIGHTsNINEsTENsMOONsFIREsWATERtOODsMETALsEARTHsSUNtTOCKsHAVEsSOCIETYsNAMEsSPECIAL",
     "sFINANCIALsCONGRATULATIONsLABORsSECRETsMALEsFEMALEsSUITABLEsEXCELLENTsPRINTsATTENTIONsITEM",
     "sRESTsCOPYuRRECTsHIGHsCENTREsLOWtEFTsRIGHTsMEDICINEsRELIGIONsSTUDYtUPERVISEsENTERPRISE",
     "sRESOURCEsALLIANCEsNIGHTiNUMBER THIRTY SIXxEVENwEIGHTwNINEpFORTYu ONEvTWOwHREEvFOURwIVE",
     "vSIXwEVENvEIGHTvNINEqIFTYaIDEOGRAPHIC TELEGRAPH SYMBOL FOR JANUARY.FEBRUARY.MARCH.APRIL",
     ".MAY.JUNE:LY.AUGUST.SEPTEMBER.OCTOBER.NOVEMBER.DECEMBERaSQUARE HGhERGiV",
     "aLIMITED LIABILITY SIGNaCIRCLED KATAKANA ArIrUrErOrKAsIsUsEsOrSAsIsUsEsOrTAsIsUsEsOrNAsIsU",
     "sEsOrHAsIsUsEsOrMAsIsUsEsOrYAsUsOrRAsIsUsEsOrWAsIsEsOaSQUARE ERA NAME REIWAhAPAATOiRUHUA",
     "iNPEAiARUhININGUjTIhUONhESUKUUDOiEKAAhONSUiOMUhKAIRIjRATTOkORIIhGARONjNMAiIGAjNIIhKYURII",
     "hGIRUDAAhKIROlGURAMUlMEETORUlWATTOhGURAMUnTONhKURUZEIROkOONEiEESUiORUNAjOPOhSAIKURUjNTIIMU",
     "iIRINGUiENTIlOhDAASUiESIiORUhTONhNANOiOTTOhHAITUhPAASENTOkTUhBAARERUhPIASUTORUjKURUkOhBIRU",
     "hHUARADDOjIITOhBUSSYERUhHURANiEKUTAARUhPESOjNIHIhHERUTUhPENSUjEZIhBEETAhPOINTOhBORUTOhHON",
     "hPONDOhHOORUkNhMAIKUROkRUjHHAjRUKUjNSYONiIKURONjRIlBAARUiEGAlTONjETORUhYAADOkRUiUAN",
     "hRITTORUjRAiUPIIjUBURUiEMUjNTOGENhWATTOaIDEOGRAPHIC TELEGRAPH SYMBOL FOR HOUR ZERO=ONE=TWO",
     ">HREE=FOUR>IVE=SIX>EVEN=EIGHT=NINE=TEN=ELEVEN=TWELVE>HIRTEEN=FOURTEEN>IFTEEN=SIXTEEN",
     ">EVENTEEN=EIGHTEEN=NINETEEN=TWENTY|-ONE~TWO~THREE~FOURaSQUARE HPAhDAhAUhBARhOVhPChDM",
     "j SQUAREDkCUBEDhIUhERA NAME HEISEIqSYOUWAqTAISYOUqMEIZIhCORPORATIONhPA AMPShNAhMU AiAhKAiB",
     "hMBhGBhCALhKCALhPFhNFhMU FkGiGhKGhHZhKHZhMHZhGHZhTHZhMU LiLhDLhKLhFMhNMhMU MiMhCMhKM",
     "hMM SQUAREDhCM SQUAREDhM SQUAREDhKM SQUAREDhMM CUBEDhCM CUBEDhM CUBEDhKM CUBEDhM OVER S",
     "p SQUAREDhPAhKPAhMPAhGPAhRADk OVER Sr SQUAREDhPShNShMU SiShPVhNVhMU ViVhKVhMV MEGAhPWhNW",
     "hMU WiWhKWhMW MEGAhK OHMhM OHMhAMhBQhCCiDi OVER KGiOhDBhGYhHAiPhINhKKiM CAPITALiThLMiNiOG",
     "iXhMB SMALLiILiOLhPHiMiPMiRhSRiVhWBhV OVER MhA OVER M",
     "aIDEOGRAPHIC TELEGRAPH SYMBOL FOR DAY ONE<TWO=HREE<FOUR=IVE<SIX=EVEN<EIGHT<NINE<TEN<ELEVEN",
     "<TWELVE=HIRTEEN<FOURTEEN=IFTEEN<SIXTEEN=EVENTEEN<EIGHTEEN<NINETEEN<TWENTY_-ONE|TWO~HREE",
     "|FOUR~IVE|SIX~EVEN|EIGHT|NINE=HIRTY_-ONEaSQUARE GAL"]),
   (0x4dc0, [
     "aHEXAGRAM FOR THE CREATIVE HEAVENrRECEPTIVE EARTHnDIFFICULTY AT THE BEGINNING",
     "nYOUTHFUL FOLLYnWAITINGnCONFLICTnTHE ARMYnHOLDING TOGETHERnSMALL TAMINGnTREADINGnPEACE",
     "nSTANDSTILLnFELLOWSHIPnGREAT POSSESSIONnMODESTYnENTHUSIASMnFOLLOWINGnWORK ON THE DECAYED",
     "nAPPROACHnCONTEMPLATIONnBITING THROUGHnGRACEnSPLITTING APARTnRETURNnINNOCENCEnGREAT TAMING",
     "nMOUTH CORNERSnGREAT PREPONDERANCEnTHE ABYSMAL WATERrCLINGING FIREnINFLUENCEnDURATION",
     "nRETREATnGREAT POWERnPROGRESSnDARKENING OF THE LIGHTnTHE FAMILYnOPPOSITIONoBSTRUCTION",
     "nDELIVERANCEpCREASEnINCREASEnBREAKTHROUGHnCOMING TO MEETnGATHERING TOGETHERnPUSHING UPWARD",
     "nOPPRESSIONnTHE WELLnREVOLUTIONnTHE CAULDRONrAROUSING THUNDERrKEEPING STILL MOUNTAIN",
     "nDEVELOPMENTnTHE MARRYING MAIDENnABUNDANCEnTHE WANDERERrGENTLE WINDrJOYOUS LAKEnDISPERSION",
     "nLIMITATIONnINNER TRUTHnSMALL PREPONDERANCEnAFTER COMPLETIONnBEFORE COMPLETION"]),
   (0xa000, [
     "aYI SYLLABLE ITnXnnPnEToXooPmATnXnnPmUOXooPmOTnXnnPmEXnmWUmBIToXooPoETpXppPnAToXooPnUOXppP",
     "nOToXooPnEXooPnUToXooPoRXpnYToXooPoRXpmPIToXooPoEXppPnAToXooPnUOXppPnOToXooPnUToXooPoRXp",
     "nYToXooPoRXpmBBITpXppPpETqXqqPoATpXppPoUOXqqPoOTpXppPoEXppPoUTpXppPpRXqoYTpXppPmNBITpXppP",
     "pEXqqPoATpXppPoOTpXppPoUTpXppPpRXqoYTpXppPpRXqmHMITpXppPpEXqqPoATpXppPoUOXqqPoOTpXppPoUTpX",
     "ppPpRXqoYXppPpRXqmMIToXooPoEXppPnAToXooPnUOTpXppPnOToXooPnEXonUToXooPoRXpnYToXooPmFIToXooP",
     "nAToXooPnOXooPnUToXooPoRXpnYToXooPmVIToXooPoETpXppPnAToXooPnOToXooPnEXoPnUToXooPoRXpnYToXo",
     "oPoRXpmDIToXooPoEXppPnAToXooPnUOXpnOToXooPnEXooPnUToXooPoRXpmTIToXooPoEXppPnAToXooPnUOTpXp",
     "pPnOToXooPnEXooPnUToXooPoRXpmDDITpXppPpEXqqPoATpXppPoUOXqqPoOTpXppPoEXppPoUTpXppPpRXqmNDIT",
     "pXppPpEXqoATpXppPoOTpXppPoEXppPoUTpXppPpRXqmHNITpXppPpETqXqqPoATpXppPoUOXqoOTpXpPoEXppPoUT",
     "mNIToXooPoEXppPnAXooPnUOXppPnOToXooPnEXooPnUToXooPoRXpmHLITpXppPpEXqqPoATpXppPoUOXqqPoOXp",
     "pPoEXppPoUTpXppPpRXqoYTpXppPpRXqmLIToXooPoETpXppPnAToXooPnUOTpXppPnOToXooPnEXooPnUToXooP",
     "oRXpnYToXooPoRXpmGIToXooPoETpXppPnAToXooPnUOTpXppPnOToXooPnEToXooPnUToXooPoRXpmKIToXooPoEX",
     "ppPnAToXooPnUOXppPnOToXooPnEToXooPnUToXooPoRXpmGGITpXppEXqqPoATpXppPoUOTqXqqPoOTpXppPoETpX",
     "ppPoUTpXppPpRXqmMGIEXqoATpXppPoUOXqqPoOTpXppPoEXppPoUTpXppPpRXqmHXITpXppPpETqXqqPoATpXppP",
     "oUOTqXqqPoOTpXppPoEXppPmNGIEXqqPoATpXppPoUOTqXqoOTpXppPoEXppPmHIToEXpnAToXooPnUOTpXppPnOT",
     "oXooPnEXooPmWAToXooPnUOXppPnOXooPnEXooPmZIToXooPoEXppPnAToXooPnUOXppPnOToXooPnEXooPnUToXo",
     "oPoRXpnYToXooPoRXpmCIToXooPoETpXppPnAToXooPnUOXppPnOToXooPnEXooPnUToXooPoRXpnYToXooPoRXp",
     "mZZITpXppPpETqXqqPoATpXppPoOXppPoEXppPoUXppPpRXqoYTpXppPpRXqmNZITpXppPpEXqqPoATpXppPoUOXq",
     "oOXpPoEXpoUXppPpRXqoYTpXppPpRXqmSIToXooPoEXppPnAToXooPnUOXppPnOToXooPnEXooPnUToXooPoRXpnYT",
     "oXooPoRXpnSITpXppPpEXqqPoATpXppPoOTpXppPoEXppPoUTpXppPoYTpXppPpRXqmZHATpXppPoUOXqqPoOTpXp",
     "pPoETpXppPoUTpXppPpRXqoYTpXppPpRXqmCHATpXppPoUOTqXqqPoOTpXppPoETpXppPoUXppPpRXqoYTpXppPpRX",
     "qmRRAXpoUOXqoOTpXppPoETpXppPoUTpXppPpRXqoYTpXppPpRXqmNRATpXppPoOXppPoETpXppPoUTpXppPpRXq",
     "oYTpXppPpRXqmSHATpXppPoUOXqqPoOTpXppPoETpXppPoUTpXppPpRXqoYTpXppPpRXqmRAToXooPnUOXppPnOToX",
     "ooPnEXooPnUToXooPoRXpnYToXooPoRXpmJIToXooPoETpXppPnUOTpXppPnOToXooPnUToXooPoRXpnYToXooPoRX",
     "pmQIToXooPoETpXppPnUOTpXppPnOToXooPnUToXooPoRXpnYToXooPoRXpmJJITpXppPpETqXqqPoUOXqqPoOTpXp",
     "pPoUTpXppPpRXqoYTpXppPmNJITpXppPpETqXqqPoUOXqoOTpXppPoUXppPpRXqoYTpXppPpRXqnYITpXppPpETqXq",
     "qPoUOXqqPoOTpXppPoUTpXppPmXIToXooPoETpXppPnUOXpnOToXooPnYToXooPoRXpmYIToXooPoETpXppPnUOTpX",
     "ppPnOToXooPnUToXooPoRXpnYToXooPoRXp"]),
   (0xa490, [
     "aYI RADICAL QOTlLIlKITlNYIPlCYPlSSIlGGOPmEPlMIlHXITlLYRlBBUTlMOPlYOlPUTlHXUOlTATlGAlZUP",
     "lCYTlDDURlBURlGGUOlNYOPlTUlOPlJJUTlZOTlPYTlHMOlYITlVURlSHYlVEPlZAlJOlNZUPlJJYlGOTlJJIElWO",
     "lDUlSHURlLIElCYmUOPmIPlHXOPlSHATlZURlSHOPlCHElZZIETlNBIElKE"]),
   (0xa4d0, [
     "aLISU LETTER BAmPAnHAmDAmTAnHAmGAmKAnHAmJAmCAnHAmDZAmTSAoHAmMAmNAmLAmSAmZHAnAmNGAmHAmXA",
     "mHHAmFAmWAmSHAmYAmGHAmAnEmEnUmImOmUnEnHmOEmTONE MYA TIrNA POrMYA CYAvBOvNAvJEU",
     "fPUNCTUATION COMMArFULL STOPaVAI SYLLABLE EEpNnHEEnWEEqNnPEEnBHEEoEEnMBEEnKPEEnMGBEEnGBEE",
     "nFEEnVEEnTEEoHEEnDHEEpHEEnLEEnREEnDEEnNDEEnSEEoHEEnZEEoHEEnCEEnJEEnNJEEnYEEnKEEnNGGEEnGEE",
     "nMEEnNEEoYEEnIoNnHIpNnWIpNnPInBHIoInMBInKPInMGBInGBInFInVInTIoHInDHIpHInLInRInDInNDInSIoHI",
     "nZIoHInCInJInNJInYInKInNGGInGInMInNIoYInAoNnNGANnHApNnWApNnPAnBHAoAnMBAnKPAqNnMGBAnGBAnFA",
     "nVAnTAoHAnDHApHAnLAnRAnDAnNDAnSAoHAnZAoHAnCAnJAnNJAnYAnKApNnNGGAnGAnMAnNAoYAnOOpNnHOOnWOO",
     "qNnPOOnBHOOoOOnMBOOnKPOOnMGBOOnGBOOnFOOnVOOnTOOoHOOnDHOOpHOOnLOOnROOnDOOnNDOOnSOOoHOOnZOO",
     "oHOOnCOOnJOOnNJOOnYOOnKOOnNGGOOnGOOnMOOnNOOoYOOnUoNnHUpNnWUpNnPUnBHUoUnMBUnKPUnMGBUnGBUnFU",
     "nVUnTUoHUnDHUpHUnLUnRUnDUnNDUnSUoHUnZUoHUnCUnJUnNJUnYUnKUnNGGUnGUnMUnNUoYUnOoNnNGONnHOpN",
     "nWOpNnPOnBHOoOnMBOnKPOnMGBOnGBOqNnFOnVOnTOoHOnDHOpHOnLOnROnDOnNDOnSOoHOnZOoHOnCOnJOnNJOnYO",
     "nKOnNGGOnGOnMOnNOoYOnEoNnNGENnHEpNnWEpNnPEnBHEoEnMBEnKPEqNnMGBEnGBEqNnFEnVEnTEoHEnDHEpHE",
     "nLEnREnDEnNDEnSEoHEnZEoHEnCEnJEnNJEnYEnKEnNGGErNnGEpNnMEnNEoYEoGnLENGTHENEReCOMMA",
     "eFULL STOPeQUESTION MARKeSYLLABLE NDOLE FAtKAtSOOgMBOL FEENGlKEENGlTINGlNIIlBANGlFAAlTAA",
     "lDANGmOONGlKUNGlTONGlDO-OlJONGeDIGIT ZEROkONEkTWOlHREEkFOURlIVEkSIXlEVENkEIGHTkNINE",
     "eSYLLABLE NDOLE MAtDO"]),
   (0xa640, [
     "aCYRILLIC CAPITAL LETTER ZEMLYAjSMALL LETTER ZEMLYAjCAPITAL LETTER DZELO",
     "jSMALL LETTER DZELOjCAPITAL LETTER REVERSED DZEjSMALL LETTER REVERSED DZE",
     "jCAPITAL LETTER IOTAjSMALL LETTER IOTAjCAPITAL LETTER DJERVjSMALL LETTER DJERV",
     "jCAPITAL LETTER MONOGRAPH UKjSMALL LETTER MONOGRAPH UKjCAPITAL LETTER BROAD OMEGA",
     "jSMALL LETTER BROAD OMEGAjCAPITAL LETTER NEUTRAL YERjSMALL LETTER NEUTRAL YER",
     "jCAPITAL LETTER YERU WITH BACK YERjSMALL LETTER YERU WITH BACK YER",
     "jCAPITAL LETTER IOTIFIED YATjSMALL LETTER IOTIFIED YATjCAPITAL LETTER REVERSED YU",
     "jSMALL LETTER REVERSED YUjCAPITAL LETTER IOTIFIED AjSMALL LETTER IOTIFIED A",
     "jCAPITAL LETTER CLOSED LITTLE YUSjSMALL LETTER CLOSED LITTLE YUS",
     "jCAPITAL LETTER BLENDED YUSjSMALL LETTER BLENDED YUS",
     "jCAPITAL LETTER IOTIFIED CLOSED LITTLE YUSjSMALL LETTER IOTIFIED CLOSED LITTLE YUS",
     "jCAPITAL LETTER YNjSMALL LETTER YNjCAPITAL LETTER REVERSED TSEjSMALL LETTER REVERSED TSE",
     "jCAPITAL LETTER SOFT DEjSMALL LETTER SOFT DEjCAPITAL LETTER SOFT ELjSMALL LETTER SOFT EL",
     "jCAPITAL LETTER SOFT EMjSMALL LETTER SOFT EMjCAPITAL LETTER MONOCULAR O",
     "jSMALL LETTER MONOCULAR OjCAPITAL LETTER BINOCULAR OjSMALL LETTER BINOCULAR O",
     "jCAPITAL LETTER DOUBLE MONOCULAR OjSMALL LETTER DOUBLE MONOCULAR OjLETTER MULTIOCULAR O",
     "bOMBINING CYRILLIC VZMETtTEN MILLIONS SIGNtHUNDRED MILLIONS SIGNtTHOUSAND MILLIONS SIGN",
     "aSLAVONIC ASTERISKaCOMBINING CYRILLIC LETTER UKRAINIAN IE!I!YI!U!HARD SIGN!YERU!SOFT SIGN",
     "!OMEGAtKAVYKAtPAYEROKbYRILLIC KAVYKAjPAYEROKjCAPITAL LETTER DWEjSMALL LETTER DWE",
     "jCAPITAL LETTER DZWEjSMALL LETTER DZWEjCAPITAL LETTER ZHWEjSMALL LETTER ZHWE",
     "jCAPITAL LETTER CCHEjSMALL LETTER CCHEjCAPITAL LETTER DZZEjSMALL LETTER DZZE",
     "jCAPITAL LETTER TE WITH MIDDLE HOOKjSMALL LETTER TE WITH MIDDLE HOOKjCAPITAL LETTER TWE",
     "jSMALL LETTER TWEjCAPITAL LETTER TSWEjSMALL LETTER TSWEjCAPITAL LETTER TSSE",
     "jSMALL LETTER TSSEjCAPITAL LETTER TCHEjSMALL LETTER TCHEjCAPITAL LETTER HWE",
     "jSMALL LETTER HWEjCAPITAL LETTER SHWEjSMALL LETTER SHWEjCAPITAL LETTER DOUBLE O",
     "jSMALL LETTER DOUBLE OjCAPITAL LETTER CROSSED OjSMALL LETTER CROSSED O",
     "aMODIFIER LETTER CYRILLIC HARD SIGNzSOFT SIGNaCOMBINING CYRILLIC LETTER EF!IOTIFIED E",
     "aBAMUM LETTER AnKAnUnKUnEEnREEnTAEnOnNYInInLAnPAnRIIpEEnLEEEEnMEEEEnTAAnNDAAoJAEMnMnSUUnMU",
     "nSHIIoIoHEUXoEUXnKYEEoETnNUAEpoJUAEnYOQnSHUnYUQoAnNSHAnKEUXnPEUXnNJEEoTEEnPUEnWUEnPEEnFEE",
     "nRUnLUnMInNInREUXoAEnKENnNGKWAENpGApAnSHOnPUAEnFUoOMnWAnNAnLInPInLOQnKOnMBENnRENnMENoAnTI",
     "nKInMOoBAAnTETnKPAnTENnNTUUnSAMBAnFAAMAEnKOVUUpGHOMgCOMBINING MARK KOQNDONvTUKWENTIS",
     "gNJAEMLIgFULL STOPgCOLONiMMAgSEMICOLONgQUESTION MARK"]),
   (0xa700, [
     "aMODIFIER LETTER CHINESE TONE YIN PING*ANG PING*IN SHANG*ANG SHANG*IN QU*ANG QU*IN RU",
     "*ANG RUqEXTRA-HIGH DOTTED TONE BARqHIGH DOTTED TONE BARqMID DOTTED TONE BAR",
     "qLOW DOTTED TONE BARqEXTRA-LOW DOTTED TONE BARwHIGH DOTTED LEFT-STEM TONE BAR",
     "qHIGH DOTTED LEFT-STEM TONE BARqMID DOTTED LEFT-STEM TONE BAR",
     "qLOW DOTTED LEFT-STEM TONE BARqEXTRA-LOW DOTTED LEFT-STEM TONE BARwHIGH LEFT-STEM TONE BAR",
     "qHIGH LEFT-STEM TONE BARqMID LEFT-STEM TONE BARqLOW LEFT-STEM TONE BAR",
     "qEXTRA-LOW LEFT-STEM TONE BARqDOT VERTICAL BARuSLASHuHORIZONTAL BAR",
     "qLOWER RIGHT CORNER ANGLEqRAISED UP ARROWxDOWN ARROWxEXCLAMATION MARK",
     "xINVERTED EXCLAMATION MARKqLOW INVERTED EXCLAMATION MARKqSTRESS AND HIGH TONE$LOW TONE",
     "aLATIN CAPITAL LETTER EGYPTOLOGICAL ALEFgSMALL LETTER EGYPTOLOGICAL ALEF",
     "gCAPITAL LETTER EGYPTOLOGICAL AINgSMALL LETTER EGYPTOLOGICAL AINgCAPITAL LETTER HENG",
     "gSMALL LETTER HENGgCAPITAL LETTER TZgSMALL LETTER TZgCAPITAL LETTER TRESILLO",
     "gSMALL LETTER TRESILLOgCAPITAL LETTER CUATRILLOgSMALL LETTER CUATRILLO",
     "gCAPITAL LETTER CUATRILLO WITH COMMAgSMALL LETTER CUATRILLO WITH COMMA",
     "gLETTER SMALL CAPITAL F$SgCAPITAL LETTER AAgSMALL LETTER AAgCAPITAL LETTER AO",
     "gSMALL LETTER AOgCAPITAL LETTER AUgSMALL LETTER AUgCAPITAL LETTER AVgSMALL LETTER AV",
     "gCAPITAL LETTER AV WITH HORIZONTAL BARgSMALL LETTER AV WITH HORIZONTAL BAR",
     "gCAPITAL LETTER AYgSMALL LETTER AYgCAPITAL LETTER REVERSED C WITH DOT",
     "gSMALL LETTER REVERSED C WITH DOTgCAPITAL LETTER K WITH STROKEgSMALL LETTER K WITH STROKE",
     "gCAPITAL LETTER K WITH DIAGONAL STROKEgSMALL LETTER K WITH DIAGONAL STROKE",
     "gCAPITAL LETTER K WITH STROKE AND DIAGONAL STROKE",
     "gSMALL LETTER K WITH STROKE AND DIAGONAL STROKEgCAPITAL LETTER BROKEN L",
     "gSMALL LETTER BROKEN LgCAPITAL LETTER L WITH HIGH STROKEgSMALL LETTER L WITH HIGH STROKE",
     "gCAPITAL LETTER O WITH LONG STROKE OVERLAYgSMALL LETTER O WITH LONG STROKE OVERLAY",
     "gCAPITAL LETTER O WITH LOOPgSMALL LETTER O WITH LOOPgCAPITAL LETTER OOgSMALL LETTER OO",
     "gCAPITAL LETTER P WITH STROKE THROUGH DESCENDER",
     "gSMALL LETTER P WITH STROKE THROUGH DESCENDERgCAPITAL LETTER P WITH FLOURISH",
     "gSMALL LETTER P WITH FLOURISHgCAPITAL LETTER P WITH SQUIRREL TAIL",
     "gSMALL LETTER P WITH SQUIRREL TAILgCAPITAL LETTER Q WITH STROKE THROUGH DESCENDER",
     "gSMALL LETTER Q WITH STROKE THROUGH DESCENDERgCAPITAL LETTER Q WITH DIAGONAL STROKE",
     "gSMALL LETTER Q WITH DIAGONAL STROKEgCAPITAL LETTER R ROTUNDAgSMALL LETTER R ROTUNDA",
     "gCAPITAL LETTER RUM ROTUNDAgSMALL LETTER RUM ROTUNDAgCAPITAL LETTER V WITH DIAGONAL STROKE",
     "gSMALL LETTER V WITH DIAGONAL STROKEgCAPITAL LETTER VYgSMALL LETTER VY",
     "gCAPITAL LETTER VISIGOTHIC ZgSMALL LETTER VISIGOTHIC ZgCAPITAL LETTER THORN WITH STROKE",
     "gSMALL LETTER THORN WITH STROKEgCAPITAL LETTER THORN WITH STROKE THROUGH DESCENDER",
     "gSMALL LETTER THORN WITH STROKE THROUGH DESCENDERgCAPITAL LETTER VENDgSMALL LETTER VEND",
     "gCAPITAL LETTER ETgSMALL LETTER ETgCAPITAL LETTER ISgSMALL LETTER ISgCAPITAL LETTER CON",
     "gSMALL LETTER CONaMODIFIER LETTER USaLATIN SMALL LETTER DUMtLUMtMUMtNUMtRUM",
     "gLETTER SMALL CAPITAL RUMgSMALL LETTER TUMtUMgCAPITAL LETTER INSULAR D",
     "gSMALL LETTER INSULAR DgCAPITAL LETTER INSULAR FgSMALL LETTER INSULAR F",
     "gCAPITAL LETTER INSULAR GvTURNED INSULAR GgSMALL LETTER TURNED INSULAR G",
     "gCAPITAL LETTER TURNED LgSMALL LETTER TURNED LgCAPITAL LETTER INSULAR R",
     "gSMALL LETTER INSULAR RgCAPITAL LETTER INSULAR SgSMALL LETTER INSULAR S",
     "gCAPITAL LETTER INSULAR TgSMALL LETTER INSULAR TaMODIFIER LETTER LOW CIRCUMFLEX ACCENT",
     "qCOLONqSHORT EQUALS SIGNaLATIN CAPITAL LETTER SALTILLOgSMALL LETTER SALTILLO",
     "gCAPITAL LETTER TURNED HgSMALL LETTER L WITH RETROFLEX HOOK AND BELT",
     "gLETTER SINOLOGICAL DOTgCAPITAL LETTER N WITH DESCENDERgSMALL LETTER N WITH DESCENDER",
     "gCAPITAL LETTER C WITH BARgSMALL LETTER C WITH BAR!PALATAL HOOKtH WITH PALATAL HOOK",
     "gCAPITAL LETTER B WITH FLOURISHgSMALL LETTER B WITH FLOURISHgCAPITAL LETTER F WITH STROKE",
     "gSMALL LETTER F WITH STROKEgCAPITAL LETTER VOLAPUK AEgSMALL LETTER VOLAPUK AE",
     "gCAPITAL LETTER VOLAPUK OEgSMALL LETTER VOLAPUK OEgCAPITAL LETTER VOLAPUK UE",
     "gSMALL LETTER VOLAPUK UEgCAPITAL LETTER G WITH OBLIQUE STROKE",
     "gSMALL LETTER G WITH OBLIQUE STROKEgCAPITAL LETTER K WITH OBLIQUE STROKE",
     "gSMALL LETTER K WITH OBLIQUE STROKEgCAPITAL LETTER N WITH OBLIQUE STROKE",
     "gSMALL LETTER N WITH OBLIQUE STROKEgCAPITAL LETTER R WITH OBLIQUE STROKE",
     "gSMALL LETTER R WITH OBLIQUE STROKEgCAPITAL LETTER S WITH OBLIQUE STROKE",
     "gSMALL LETTER S WITH OBLIQUE STROKEgCAPITAL LETTER H WITH HOOKvREVERSED OPEN EvSCRIPT G",
     "vL WITH BELTvSMALL CAPITAL IgLETTER SMALL CAPITAL QgCAPITAL LETTER TURNED K%T",
     "vJ WITH CROSSED-TAILvCHIvBETAgSMALL LETTER BETAgCAPITAL LETTER OMEGAgSMALL LETTER OMEGA",
     "gCAPITAL LETTER U WITH STROKEgSMALL LETTER U WITH STROKEgCAPITAL LETTER GLOTTAL A",
     "gSMALL LETTER GLOTTAL AgCAPITAL LETTER GLOTTAL IgSMALL LETTER GLOTTAL I",
     "gCAPITAL LETTER GLOTTAL UgSMALL LETTER GLOTTAL UgCAPITAL LETTER OLD POLISH O",
     "gSMALL LETTER OLD POLISH OgCAPITAL LETTER ANGLICANA WgSMALL LETTER ANGLICANA W",
     "gCAPITAL LETTER C WITH PALATAL HOOKvS WITH HOOKvZ WITH PALATAL HOOK",
     "vD WITH SHORT STROKE OVERLAYgSMALL LETTER D WITH SHORT STROKE OVERLAY",
     "gCAPITAL LETTER S WITH SHORT STROKE OVERLAYgSMALL LETTER S WITH SHORT STROKE OVERLAY"]),
   (0xa7d0, ["aLATIN CAPITAL LETTER CLOSED INSULAR GgSMALL LETTER CLOSED INSULAR G"]),
   (0xa7d3, ["aLATIN SMALL LETTER DOUBLE THORN"]),
   (0xa7d5, [
     "aLATIN SMALL LETTER DOUBLE WYNNgCAPITAL LETTER MIDDLE SCOTS SgSMALL LETTER MIDDLE SCOTS S",
     "gCAPITAL LETTER SIGMOID SgSMALL LETTER SIGMOID S"]),
   (0xa7f2, [
     "aMODIFIER LETTER CAPITAL CyFyQaLATIN CAPITAL LETTER REVERSED HALF H",
     "gSMALL LETTER REVERSED HALF HgEPIGRAPHIC LETTER SIDEWAYS I",
     "aMODIFIER LETTER CAPITAL H WITH STROKEqSMALL LIGATURE OE",
     "aLATIN LETTER SMALL CAPITAL TURNED MgEPIGRAPHIC LETTER REVERSED F.PyINVERTED Mz LONGA",
     "yARCHAIC MaSYLOTI NAGRI LETTER AuInSIGN DVISVARAnLETTER UuEuOnSIGN HASANTAnLETTER KOvHOuGO",
     "vHOnSIGN ANUSVARAnLETTER COvHOuJOvHOuTTOwHOuDDOwHOuTOvHOuDOvHOuNOuPOvHOuBOvHOuMOuROuLOuRRO",
     "uSOuHOnVOWEL SIGN AyIyUyEyOOnPOETRY MARK-1z2z3z4nSIGN ALTERNATE HASANTA"]),
   (0xa830, [
     "aNORTH INDIC FRACTION ONE QUARTERzHALFvTHREE QUARTERSvONE SIXTEENTHzEIGHTH",
     "vTHREE SIXTEENTHSmQUARTER MARKmPLACEHOLDER MARKmRUPEE MARKmQUANTITY MARK"]),
   (0xa840, [
     "aPHAGS-PA LETTER KArHAqGAqNGAqCArHAqJAqNYAqTArHAqDAqNAqPArHAqBAqMAqTSAsHAqDZAqWAqZHArA",
     "qSMALL AqYAqRAqLAqSHArAqHAqAqIqUqEqOqQAqXAqFAqGGAqEEjSUBJOINED LETTER WA!YAjLETTER TTAsHA",
     "qDDAqNNAqALTERNATE YAqVOICELESS SHAvD HAqASPIRATED FAjSUBJOINED LETTER RA",
     "lPERFIXED LETTER RAjLETTER CANDRABINDUjSINGLE HEAD MARKjDOUBLE HEAD MARKjMARK SHAD",
     "oDOUBLE SHAD"]),
   (0xa880, [
     "aSAURASHTRA SIGN ANUSVARAqVISARGAlLETTER AtAsItIsUtUsVOCALIC R$R!L$LsEtEsAIsOtOsAUsKAtHA",
     "sGAtHAsNGAsCAtHAsJAtHAsNYAsTTAuHAsDDAuHAsNNAsTAtHAsDAtHAsNAsPAtHAsBAtHAsMAsYAsRAsLAsVAsSHA",
     "tSAtAsHAsLLAlCONSONANT SIGN HAARUlVOWEL SIGN AAwIxIwUxUwVOCALIC R+R*L+LwExEwAIwOxOwAU",
     "lSIGN VIRAMAqCANDRABINDU"]),
   (0xa8ce, ["aSAURASHTRA DANDAmOUBLE DANDAmIGIT ZEROrONErTWOsHREErFOURsIVErSIXsEVENrEIGHTrNINE"]),
   (0xa8e0, [
     "aCOMBINING DEVANAGARI DIGIT ZERO$ONE$TWO%HREE$FOUR%IVE$SIX%EVEN$EIGHT$NINEvLETTER A%U%KA",
     "%NA%PA%RA%VIvSIGN AVAGRAHAaDEVANAGARI SIGN SPACING CANDRABINDUqCANDRABINDU VIRAMA",
     "qDOUBLE CANDRABINDU VIRAMAqCANDRABINDU TWO&HREE%AVAGRAHAqPUSHPIKAlGAP FILLERlCARET",
     "lHEADSTROKElSIGN SIDDHAMlJAIN OMlLETTER AYlVOWEL SIGN AYaKAYAH LI DIGIT ZEROpONEpTWOqHREE",
     "pFOURqIVEpSIXqEVENpEIGHTpNINEjLETTER KArHAqGAqNGAqSArHAqZAqNYAqTAqHTAqNAqPArHAqMAqDAqBAqRA",
     "qYAqLAqWAqTHAqHAqVAqCAqAqOEqIqOOjVOWEL UEpEpUpEEpOjTONE PLOPHUoCALYAt PLOPHUjSIGN CWIoSHYA",
     "aREJANG LETTER KAoGAoNGAoTAoDAoNAoPAoBAoMAoCAoJAoNYAoSAoRAoLAoYAoWAoHAoMBAoNGGApDApYJAoA",
     "hVOWEL SIGN IsUsEsAIsOsAUsEUtAhCONSONANT SIGN NGxwRwHhVIRAMA"]),
   (0xa95f, [
     "aREJANG SECTION MARKaHANGUL CHOSEONG TIKEUT-MIEUMxPIEUPxSIOSxCIEUCqRIEUL-KIYEOK",
     "wSSANGKIYEOKwTIKEUTwSSANGTIKEUTwMIEUMwPIEUPwSSANGPIEUPwKAPYEOUNPIEUPwSIOSwCIEUCwKHIEUKH",
     "qMIEUM-KIYEOKwTIKEUTwSIOSqPIEUP-SIOS-THIEUTHwKHIEUKHwHIEUHqSSANGSIOS-PIEUPqIEUNG-RIEUL",
     "wHIEUHqSSANGCIEUC-HIEUHvTHIEUTHqPHIEUPH-HIEUHqHIEUH-SIOSqSSANGYEORINHIEUH"]),
   (0xa980, [
     "aJAVANESE SIGN PANYANGGAoCECAKoLAYARoWIGNYANjLETTER AqI KAWIrrIqUqPA CEREKqNGA LELET",
     "z RASWADIqEqAIqOqKAs SASAKtMURDAqGAs MURDAqNGAqCAs MURDAqJAqNYA MURDAqJA MAHAPRANAqNYAqTTA",
     "t MAHAPRANAqDDAt MAHAPRANAqNA MURDAqTAs MURDAqDAs MAHAPRANAqNAqPAs MURDAqBAs MURDAqMAqYA",
     "qRAs AGUNGqLAqWAqSA MURDAuAHAPRANAsqHAjSIGN CECAK TELUjVOWEL SIGN TARUNGvOLONGuWULUy MELIK",
     "uSUKUy MENDUTuTALINGuDIRGA MUREuPEPETjCONSONANT SIGN KERETyPENGKALyCAKRAjPANGKON",
     "jLEFT RERENGGANjRIGHT RERENGGANjPADA ANDAPoMADYAoLUHURoWINDUoPANGKAToLINGSApUNGSIoADEG",
     "s ADEGoPISELEHjTURNED PADA PISELEH"]),
   (0xa9cf, ["aJAVANESE PANGRANGKEPjDIGIT ZEROpONEpTWOqHREEpFOURqIVEpSIXqEVENpEIGHTpNINE"]),
   (0xa9de, [
     "aJAVANESE PADA TIRTA TUMETESoISEN-ISENaMYANMAR LETTER SHAN GHAuCHAuJHAuNNAuBHA",
     "iSIGN SHAN SAWiMODIFIER LETTER SHAN REDUPLICATIONiLETTER TAI LAING NYAzFAzGA!HAzJA!HAzDDA",
     "$HAzNNAiTAI LAING DIGIT ZEROyONEyTWOzHREEyFOURzIVEySIXzEVENyEIGHTyNINE",
     "iLETTER TAI LAING LLAzDA!HAzBA!HA"]),
   (0xaa00, [
     "aCHAM LETTER AmImUmEmAImOmKAnHAmGAnHAmNGUEoAmCHAoHAmJAnHAmNHUEoAoJAmTAnHAmDAnHAmNUEnAmDDA",
     "mPAnPAnHAmBAnHAmMUEnAmBBAmYAmRAmLAmVAmSSAnAmHAfVOWEL SIGN AAqIrIqEIqUqOErqAIrUqUE",
     "fCONSONANT SIGN YAuRAuLAuWA"]),
   (0xaa40, [
     "aCHAM LETTER FINAL KsGsNGfCONSONANT SIGN FINAL NGfLETTER FINAL CHsTsNsPsYsRsLsSS",
     "fCONSONANT SIGN FINAL M!H"]),
   (0xaa50, ["aCHAM DIGIT ZEROlONElTWOmHREElFOURmIVElSIXmEVENlEIGHTlNINE"]),
   (0xaa5c, [
     "aCHAM PUNCTUATION SPIRALrDANDAsOUBLE DANDArTRIPLE DANDAaMYANMAR LETTER KHAMTI GAwCAxHAwJA",
     "xHAwNYAwTTAyHAwDDAyHAxHAwNAwSAwHAxHAwFAiMODIFIER LETTER KHAMTI REDUPLICATION",
     "iLETTER KHAMTI XAwZAwRAjOGOGRAM KHAMTI OAYyQNyHMiSYMBOL AITON EXCLAMATIONvONEvTWO",
     "iLETTER AITON RAiSIGN PAO KAREN TONEnTAI LAING TONE-2%5iLETTER SHWE PALAUNG CHA%SHA",
     "aTAI VIET LETTER LOW KOqHIGH KOqLOW KHOqHIGH KHOqLOW KHHOqHIGH KHHOqLOW GOqHIGH GOqLOW NGO",
     "qHIGH NGOqLOW COqHIGH COqLOW CHOqHIGH CHOqLOW SOqHIGH SOqLOW NYOqHIGH NYOqLOW DOqHIGH DO",
     "qLOW TOqHIGH TOqLOW THOqHIGH THOqLOW NOqHIGH NOqLOW BOqHIGH BOqLOW POqHIGH POqLOW PHO",
     "qHIGH PHOqLOW FOqHIGH FOqLOW MOqHIGH MOqLOW YOqHIGH YOqLOW ROqHIGH ROqLOW LOqHIGH LO",
     "qLOW VOqHIGH VOqLOW HOqHIGH HOqLOW OqHIGH OjMAI KANGjVOWEL AApIpUEqpEpOjMAI KHITjVOWEL IA",
     "pUEAqApAUEqYqNqMjTONE MAI EKsNUENGsTHOsSONG"]),
   (0xaadb, [
     "aTAI VIET SYMBOL KONqNUENGqSAMqHO HOIqKOI KOIaMEETEI MAYEK LETTER EuOuCHAuNYAuTTAwHAuDDA",
     "wHAuNNAuSHAvSAnVOWEL SIGN IIyUUyAAIzUzAUnCHEIKHANnAHANG KHUDAMoNJI",
     "nSYLLABLE REPETITION MARKnWORD REPETITION MARKnVOWEL SIGN VISARGAoIRAMA"]),
   (0xab01, ["aETHIOPIC SYLLABLE TTHUvIvAAvEEwvO"]),
   (0xab09, ["aETHIOPIC SYLLABLE DDHUvIvAAvEEwvO"]),
   (0xab11, ["aETHIOPIC SYLLABLE DZUuIuAAuEEvuO"]),
   (0xab20, ["aETHIOPIC SYLLABLE CCHHAwUwIwAAwEExwO"]),
   (0xab28, ["aETHIOPIC SYLLABLE BBAuUuIuAAuEEvuO"]),
   (0xab30, [
     "aLATIN SMALL LETTER BARRED ALPHAtA REVERSED-SCHWAtBLACKLETTER EuARRED EtE WITH FLOURISH",
     "tLENIS FtSCRIPT G WITH CROSSED-TAILtL WITH INVERTED LAZY S!DOUBLE MIDDLE TILDE!MIDDLE RING",
     "tM WITH CROSSED-TAILtN WITH CROSSED-TAILtENG WITH CROSSED-TAILtBLACKLETTER O, WITH STROKE",
     "tOPEN O WITH STROKEtINVERTED OEtTURNED OE WITH STROKE/HORIZONTAL STROKE$ OPEN-O",
     "/ WITH STROKEtSTIRRUP RgLETTER SMALL CAPITAL R WITH RIGHT LEG",
     "gSMALL LETTER R WITHOUT HANDLEtDOUBLE RtR WITH CROSSED-TAILtDOUBLE R WITH CROSSED-TAIL",
     "tSCRIPT R$ WITH RINGtBASELINE ESHtU WITH SHORT RIGHT LEGvBAR WITH SHORT RIGHT LEGuI",
     "tTURNED UItU WITH LEFT HOOKtCHIw WITH LOW RIGHT RING,LEFT SERIFtX WITH LOW RIGHT RING",
     "%NG LEFT LEG> AND LOW RIGHT RING?WITH SERIFtY WITH SHORT RIGHT LEG",
     "aMODIFIER BREVE WITH INVERTED BREVEjLETTER SMALL HENGwL WITH INVERTED LAZY S&MIDDLE TILDE",
     "wU WITH LEFT HOOKaLATIN SMALL LETTER SAKHA YATtIOTIFIED EtOPEN OEtUOtINVERTED ALPHA",
     "aGREEK LETTER SMALL CAPITAL OMEGAaLATIN SMALL LETTER DZ DIGRAPH WITH RETROFLEX HOOK",
     "tTS DIGRAPH WITH RETROFLEX HOOKuURNED R WITH MIDDLE TILDEaMODIFIER LETTER SMALL TURNED W",
     "qLEFT TACKqRIGHT TACK"]),
   (0xab70, [
     "aCHEROKEE SMALL LETTER AwEwIwOwUwVwGAwKAwGExIxOxUxVwHAxExIxOxUxVwLAxExIxOxUxVwMAxExIxOxU",
     "wNAwHNAwNAHxExIxOxUxVwQUAyEyIyOyUyVwSAxxExIxOxUxVwDAwTAwDEwTEwDIwTIwDOxUxVxLAwTLAyEyIyOyU",
     "yVxSAyEyIyOyUyVwWAxExIxOxUxVwYAaMEETEI MAYEK LETTER KOKuSAMuLAIuMITuPAuNAuCHILuTILuKHOU",
     "uNGOUuTHOUuWAIuYANGuHUKuUNuIuPHAMuATIYAuGOKuJHAMuRAIuBAuJILuDILuGHOUuDHOUuBHAMuKOK LONSUM",
     "uLAI LONSUMuMIT LONSUMuPA LONSUMuNA LONSUMuTIL LONSUMuNGOU LONSUMuI LONSUMnVOWEL SIGN ONAP",
     "yINAPyANAPyYENAPySOUNAPyUNAPyCHEINAPyNUNGnCHEIKHEInLUM IYEKnAPUN IYEK"]),
   (0xabf0, ["aMEETEI MAYEK DIGIT ZEROtONEtTWOuHREEtFOURuIVEtSIXuEVENtEIGHTtNINE"]),
   (0xd7b0, [
     "aHANGUL JUNGSEONG O-YEOtO-IrYO-AvEuEOrU-YEOtI-IrYU-AEuOrEU-AuEOvuOrI-YA-OvEuEOvtO-ItYOuUtI",
     "rARAEA-AxE"]),
   (0xd7cb, [
     "aHANGUL JONGSEONG NIEUN-RIEULxCHIEUCHrSSANGTIKEUT%-PIEUPrTIKEUT-PIEUPySIOS%-KIYEOKyCIEUC",
     "zHIEUCHyTHIEUTHrRIEUL-SSANGKIYEOKxKIYEOK-HIEUHrSSANGRIEUL-KHIEUKHrRIEUL-MIEUM-HIEUH",
     "xPIEUP-TIKEUT&PHIEUPHxYESIEUNGzORINHIEUH-HIEUHrKAPYEOUNRIEULrMIEUM-NIEUNxSSANGNIEUN",
     "rSSANGMIEUMrMIEUM-PIEUP-SIOSxCIEUCrPIEUP-TIKEUTxRIEUL-PHIEUPHxMIEUMrSSANGPIEUP",
     "rPIEUP-SIOS-TIKEUTxCIEUCyHIEUCHrSIOS-MIEUMwKAPYEOUNPIEUPsSANGSIOS-KIYEOK$TIKEUT",
     "sIOS-PANSIOSwCIEUCxHIEUCHwTHIEUTHwHIEUHrPANSIOS-PIEUPzKAPYEOUNPIEUPrYESIEUNG-MIEUM!HIEUH",
     "rCIEUC-PIEUPxSSANGPIEUPrSSANGCIEUCrPHIEUPH-SIOSzTHIEUTH"]),
   (0xfb00, ["aLATIN SMALL LIGATURE FFwIwLwFIxLvLONG S TvST"]),
   (0xfb13, ["aARMENIAN SMALL LIGATURE MEN NOW%ECH%INIyVEW NOWyMEN XEH"]),
   (0xfb1d, [
     "aHEBREW LETTER YOD WITH HIRIQhPOINT JUDEO-SPANISH VARIKAhLIGATURE YIDDISH YOD YOD PATAH",
     "iETTER ALTERNATIVE AYINoWIDE ALEFtDALETtHEtKAFtLAMEDtFINAL MEMtRESHtTAV",
     "oALTERNATIVE PLUS SIGNoSHIN WITH SHIN DOTzIN DOTyDAGESH AND SHIN DOT;IN DOT",
     "oALEF WITH PATAHyQAMATSyMAPIQoBET WITH DAGESHoGIMEL WITH DAGESHoDALET WITH DAGESH",
     "oHE WITH MAPIQoVAV WITH DAGESHoZAYIN WITH DAGESH"]),
   (0xfb38, [
     "aHEBREW LETTER TET WITH DAGESHoYOD WITH DAGESHoFINAL KAF WITH DAGESHoKAF WITH DAGESH",
     "oLAMED WITH DAGESH"]),
   (0xfb3e, ["aHEBREW LETTER MEM WITH DAGESH"]),
   (0xfb40, ["aHEBREW LETTER NUN WITH DAGESHoSAMEKH WITH DAGESH"]),
   (0xfb43, ["aHEBREW LETTER FINAL PE WITH DAGESHoPE WITH DAGESH"]),
   (0xfb46, [
     "aHEBREW LETTER TSADI WITH DAGESHoQOF WITH DAGESHoRESH WITH DAGESHoSHIN WITH DAGESH",
     "oTAV WITH DAGESHoVAV WITH HOLAMoBET WITH RAFEoKAF WITH RAFEoPE WITH RAFE",
     "iIGATURE ALEF LAMEDaARABIC LETTER ALEF WASLA ISOLATED FORMzFINAL FORMoBEEH ISOLATED FORM",
     "tFINAL FORMtINITIAL FORMtMEDIAL FORMoPEH ISOLATED FORMsFINAL FORMsINITIAL FORMsMEDIAL FORM",
     "oBEHEH ISOLATED FORMuFINAL FORMuINITIAL FORMuMEDIAL FORMoTTEHEH ISOLATED FORMvFINAL FORM",
     "vINITIAL FORMvMEDIAL FORMpEHEH ISOLATED FORMuFINAL FORMuINITIAL FORMuMEDIAL FORM",
     "pTEH ISOLATED FORMtFINAL FORMtINITIAL FORMtMEDIAL FORMoVEH ISOLATED FORMsFINAL FORM",
     "sINITIAL FORMsMEDIAL FORMoPEHEH ISOLATED FORMuFINAL FORMuINITIAL FORMuMEDIAL FORM",
     "oDYEH ISOLATED FORMtFINAL FORMtINITIAL FORMtMEDIAL FORMoNYEH ISOLATED FORMtFINAL FORM",
     "tINITIAL FORMtMEDIAL FORMoTCHEH ISOLATED FORMuFINAL FORMuINITIAL FORMuMEDIAL FORM",
     "tEH ISOLATED FORMwFINAL FORMwINITIAL FORMwMEDIAL FORMoDDAHAL ISOLATED FORMvFINAL FORM",
     "pAHAL ISOLATED FORMuFINAL FORMpUL ISOLATED FORMsFINAL FORMpDAL ISOLATED FORMtFINAL FORM",
     "oJEH ISOLATED FORMsFINAL FORMoRREH ISOLATED FORMtFINAL FORMoKEHEH ISOLATED FORMuFINAL FORM",
     "uINITIAL FORMuMEDIAL FORMoGAF ISOLATED FORMsFINAL FORMsINITIAL FORMsMEDIAL FORM",
     "pUEH ISOLATED FORMtFINAL FORMtINITIAL FORMtMEDIAL FORMoNGOEH ISOLATED FORMuFINAL FORM",
     "uINITIAL FORMuMEDIAL FORMpOON GHUNNA ISOLATED FORM!FINAL FORMoRNOON ISOLATED FORM",
     "uFINAL FORMuINITIAL FORMuMEDIAL FORMoHEH WITH YEH ABOVE ISOLATED FORM.FINAL FORM",
     "sGOAL ISOLATED FORMxFINAL FORMxINITIAL FORMxMEDIAL FORMsDOACHASHMEE ISOLATED FORM",
     "*FINAL FORM*INITIAL FORM*MEDIAL FORMoYEH BARREE ISOLATED FORMzFINAL FORM",
     "zWITH HAMZA ABOVE ISOLATED FORM^FINAL FORMhSYMBOL DOT ABOVEsBELOWoTWO DOTS ABOVExBELOW",
     "pHREE DOTS ABOVEzBELOWzPOINTING DOWNWARDS ABOVE|BELOWoFOUR DOTS ABOVEyBELOW",
     "oDOUBLE VERTICAL BAR BELOWoTWO DOTS VERTICALLY ABOVE/BELOWoRINGoSMALL TAH ABOVEyBELOW",
     "oWASLA ABOVE"]),
   (0xfbd3, [
     "aARABIC LETTER NG ISOLATED FORMrFINAL FORMrINITIAL FORMrMEDIAL FORMoU ISOLATED FORM",
     "qFINAL FORMoOE ISOLATED FORMrFINAL FORMoYU ISOLATED FORMrFINAL FORM",
     "oU WITH HAMZA ABOVE ISOLATED FORMoVE ISOLATED FORMrFINAL FORMoKIRGHIZ OE ISOLATED FORM",
     "zFINAL FORMwYU ISOLATED FORMzFINAL FORMoE ISOLATED FORMqFINAL FORMqINITIAL FORM",
     "qMEDIAL FORMoUIGHUR KAZAKH KIRGHIZ ALEF MAKSURA INITIAL FORM~URA MEDIAL FORM",
     "iIGATURE YEH WITH HAMZA ABOVE WITH ALEF ISOLATED FORM~F FINAL FORM_E ISOLATED FORM",
     "~FINAL FORM^WAW ISOLATED FORM~ FINAL FORM^U ISOLATED FORM|FINAL FORM^OE ISOLATED FORM",
     "~FINAL FORM^YU ISOLATED FORM~FINAL FORM^E ISOLATED FORM|FINAL FORM|INITIAL FORM",
     "qUIGHUR KIRGHIZ YEH WITH HAMZA ABOVE WITH ALEF MAKSURA ISOLATED FORM",
     "~ ABOVE WITH ALEF MAKSURA FINAL FORM~ ABOVE WITH ALEF MAKSURA INITIAL FORM",
     "iETTER FARSI YEH ISOLATED FORMyFINAL FORMyINITIAL FORMyMEDIAL FORM",
     "iIGATURE YEH WITH HAMZA ABOVE WITH JEEM ISOLATED FORM^HAH ISOLATED FORM^MEEM ISOLATED FORM",
     "^ALEF MAKSURA ISOLATED FORM^YEH ISOLATED FORMqBEH WITH JEEM ISOLATED FORM",
     "zHAH ISOLATED FORMzKHAH ISOLATED FORMzMEEM ISOLATED FORMzALEF MAKSURA ISOLATED FORM",
     "zYEH ISOLATED FORMqTEH WITH JEEM ISOLATED FORMzHAH ISOLATED FORMzKHAH ISOLATED FORM",
     "zMEEM ISOLATED FORMzALEF MAKSURA ISOLATED FORMzYEH ISOLATED FORM",
     "rHEH WITH JEEM ISOLATED FORM!MEEM ISOLATED FORM!ALEF MAKSURA ISOLATED FORM",
     "!YEH ISOLATED FORMqJEEM WITH HAH ISOLATED FORM!MEEM ISOLATED FORM",
     "qHAH WITH JEEM ISOLATED FORMzMEEM ISOLATED FORMqKHAH WITH JEEM ISOLATED FORM",
     "!HAH ISOLATED FORM!MEEM ISOLATED FORMqSEEN WITH JEEM ISOLATED FORM!HAH ISOLATED FORM",
     "!KHAH ISOLATED FORM!MEEM ISOLATED FORMrAD WITH HAH ISOLATED FORMzMEEM ISOLATED FORM",
     "qDAD WITH JEEM ISOLATED FORMzHAH ISOLATED FORMzKHAH ISOLATED FORMzMEEM ISOLATED FORM",
     "qTAH WITH HAH ISOLATED FORMzMEEM ISOLATED FORMqZAH WITH MEEM ISOLATED FORM",
     "qAIN WITH JEEM ISOLATED FORMzMEEM ISOLATED FORMqGHAIN WITH JEEM ISOLATED FORM",
     "$MEEM ISOLATED FORMqFEH WITH JEEM ISOLATED FORMzHAH ISOLATED FORMzKHAH ISOLATED FORM",
     "zMEEM ISOLATED FORMzALEF MAKSURA ISOLATED FORMzYEH ISOLATED FORM",
     "qQAF WITH HAH ISOLATED FORMzMEEM ISOLATED FORMzALEF MAKSURA ISOLATED FORM",
     "zYEH ISOLATED FORMqKAF WITH ALEF ISOLATED FORMzJEEM ISOLATED FORMzHAH ISOLATED FORM",
     "zKHAH ISOLATED FORMzLAM ISOLATED FORMzMEEM ISOLATED FORMzALEF MAKSURA ISOLATED FORM",
     "zYEH ISOLATED FORMqLAM WITH JEEM ISOLATED FORMzHAH ISOLATED FORMzKHAH ISOLATED FORM",
     "zMEEM ISOLATED FORMzALEF MAKSURA ISOLATED FORMzYEH ISOLATED FORM",
     "qMEEM WITH JEEM ISOLATED FORM!HAH ISOLATED FORM!KHAH ISOLATED FORM!MEEM ISOLATED FORM",
     "!ALEF MAKSURA ISOLATED FORM!YEH ISOLATED FORMqNOON WITH JEEM ISOLATED FORM",
     "!HAH ISOLATED FORM!KHAH ISOLATED FORM!MEEM ISOLATED FORM!ALEF MAKSURA ISOLATED FORM",
     "!YEH ISOLATED FORMqHEH WITH JEEM ISOLATED FORMzMEEM ISOLATED FORM",
     "zALEF MAKSURA ISOLATED FORMzYEH ISOLATED FORMqYEH WITH JEEM ISOLATED FORM",
     "zHAH ISOLATED FORMzKHAH ISOLATED FORMzMEEM ISOLATED FORMzALEF MAKSURA ISOLATED FORM",
     "zYEH ISOLATED FORMqTHAL WITH SUPERSCRIPT ALEF ISOLATED FORM",
     "qREH WITH SUPERSCRIPT ALEF ISOLATED FORMqALEF MAKSURA WITH SUPERSCRIPT ALEF ISOLATED FORM",
     "qSHADDA WITH DAMMATAN ISOLATED FORM%KASRATAN ISOLATED FORM%FATHA ISOLATED FORM",
     "%DAMMA ISOLATED FORM%KASRA ISOLATED FORM%SUPERSCRIPT ALEF ISOLATED FORM",
     "qYEH WITH HAMZA ABOVE WITH REH FINAL FORM^ZAIN FINAL FORM^MEEM FINAL FORM^NOON FINAL FORM",
     "^ALEF MAKSURA FINAL FORM^YEH FINAL FORMqBEH WITH REH FINAL FORMzZAIN FINAL FORM",
     "zMEEM FINAL FORMzNOON FINAL FORMzALEF MAKSURA FINAL FORMzYEH FINAL FORM",
     "qTEH WITH REH FINAL FORMzZAIN FINAL FORMzMEEM FINAL FORMzNOON FINAL FORM",
     "zALEF MAKSURA FINAL FORMzYEH FINAL FORMrHEH WITH REH FINAL FORM!ZAIN FINAL FORM",
     "!MEEM FINAL FORM!NOON FINAL FORM!ALEF MAKSURA FINAL FORM!YEH FINAL FORM",
     "qFEH WITH ALEF MAKSURA FINAL FORMzYEH FINAL FORMqQAF WITH ALEF MAKSURA FINAL FORM",
     "zYEH FINAL FORMqKAF WITH ALEF FINAL FORMzLAM FINAL FORMzMEEM FINAL FORM",
     "zALEF MAKSURA FINAL FORMzYEH FINAL FORMqLAM WITH MEEM FINAL FORMzALEF MAKSURA FINAL FORM",
     "zYEH FINAL FORMqMEEM WITH ALEF FINAL FORM!MEEM FINAL FORMqNOON WITH REH FINAL FORM",
     "!ZAIN FINAL FORM!MEEM FINAL FORM!NOON FINAL FORM!ALEF MAKSURA FINAL FORM!YEH FINAL FORM",
     "qALEF MAKSURA WITH SUPERSCRIPT ALEF FINAL FORMqYEH WITH REH FINAL FORMzZAIN FINAL FORM",
     "zMEEM FINAL FORMzNOON FINAL FORMzALEF MAKSURA FINAL FORMzYEH FINAL FORM",
     "zHAMZA ABOVE WITH JEEM INITIAL FORM^HAH INITIAL FORM^KHAH INITIAL FORM^MEEM INITIAL FORM",
     "^HEH INITIAL FORMqBEH WITH JEEM INITIAL FORMzHAH INITIAL FORMzKHAH INITIAL FORM",
     "zMEEM INITIAL FORMzHEH INITIAL FORMqTEH WITH JEEM INITIAL FORMzHAH INITIAL FORM",
     "zKHAH INITIAL FORMzMEEM INITIAL FORMzHEH INITIAL FORMrHEH WITH MEEM INITIAL FORM",
     "qJEEM WITH HAH INITIAL FORM!MEEM INITIAL FORMqHAH WITH JEEM INITIAL FORMzMEEM INITIAL FORM",
     "qKHAH WITH JEEM INITIAL FORM!MEEM INITIAL FORMqSEEN WITH JEEM INITIAL FORM",
     "!HAH INITIAL FORM!KHAH INITIAL FORM!MEEM INITIAL FORMrAD WITH HAH INITIAL FORM",
     "zKHAH INITIAL FORMzMEEM INITIAL FORMqDAD WITH JEEM INITIAL FORMzHAH INITIAL FORM",
     "zKHAH INITIAL FORMzMEEM INITIAL FORMqTAH WITH HAH INITIAL FORMqZAH WITH MEEM INITIAL FORM",
     "qAIN WITH JEEM INITIAL FORMzMEEM INITIAL FORMqGHAIN WITH JEEM INITIAL FORM",
     "$MEEM INITIAL FORMqFEH WITH JEEM INITIAL FORMzHAH INITIAL FORMzKHAH INITIAL FORM",
     "zMEEM INITIAL FORMqQAF WITH HAH INITIAL FORMzMEEM INITIAL FORMqKAF WITH JEEM INITIAL FORM",
     "zHAH INITIAL FORMzKHAH INITIAL FORMzLAM INITIAL FORMzMEEM INITIAL FORM",
     "qLAM WITH JEEM INITIAL FORMzHAH INITIAL FORMzKHAH INITIAL FORMzMEEM INITIAL FORM",
     "zHEH INITIAL FORMqMEEM WITH JEEM INITIAL FORM!HAH INITIAL FORM!KHAH INITIAL FORM",
     "!MEEM INITIAL FORMqNOON WITH JEEM INITIAL FORM!HAH INITIAL FORM!KHAH INITIAL FORM",
     "!MEEM INITIAL FORM!HEH INITIAL FORMqHEH WITH JEEM INITIAL FORMzMEEM INITIAL FORM",
     "zSUPERSCRIPT ALEF INITIAL FORMqYEH WITH JEEM INITIAL FORMzHAH INITIAL FORM",
     "zKHAH INITIAL FORMzMEEM INITIAL FORMzHEH INITIAL FORM!AMZA ABOVE WITH MEEM MEDIAL FORM",
     "^HEH MEDIAL FORMqBEH WITH MEEM MEDIAL FORMzHEH MEDIAL FORMqTEH WITH MEEM MEDIAL FORM",
     "zHEH MEDIAL FORMrHEH WITH MEEM MEDIAL FORM!HEH MEDIAL FORMqSEEN WITH MEEM MEDIAL FORM",
     "!HEH MEDIAL FORMrHEEN WITH MEEM MEDIAL FORM$HEH MEDIAL FORMqKAF WITH LAM MEDIAL FORM",
     "zMEEM MEDIAL FORMqLAM WITH MEEM MEDIAL FORMqNOON WITH MEEM MEDIAL FORM!HEH MEDIAL FORM",
     "qYEH WITH MEEM MEDIAL FORMzHEH MEDIAL FORMqSHADDA WITH FATHA MEDIAL FORM%DAMMA MEDIAL FORM",
     "%KASRA MEDIAL FORMqTAH WITH ALEF MAKSURA ISOLATED FORMzYEH ISOLATED FORM",
     "qAIN WITH ALEF MAKSURA ISOLATED FORMzYEH ISOLATED FORM",
     "qGHAIN WITH ALEF MAKSURA ISOLATED FORM$YEH ISOLATED FORM",
     "qSEEN WITH ALEF MAKSURA ISOLATED FORM!YEH ISOLATED FORM",
     "rHEEN WITH ALEF MAKSURA ISOLATED FORM$YEH ISOLATED FORM",
     "qHAH WITH ALEF MAKSURA ISOLATED FORMzYEH ISOLATED FORM",
     "qJEEM WITH ALEF MAKSURA ISOLATED FORM!YEH ISOLATED FORM",
     "qKHAH WITH ALEF MAKSURA ISOLATED FORM!YEH ISOLATED FORM",
     "qSAD WITH ALEF MAKSURA ISOLATED FORMzYEH ISOLATED FORMqDAD WITH ALEF MAKSURA ISOLATED FORM",
     "zYEH ISOLATED FORMqSHEEN WITH JEEM ISOLATED FORM$HAH ISOLATED FORM$KHAH ISOLATED FORM",
     "$MEEM ISOLATED FORM$REH ISOLATED FORMrEEN WITH REH ISOLATED FORMrAD WITH REH ISOLATED FORM",
     "qDAD WITH REH ISOLATED FORMqTAH WITH ALEF MAKSURA FINAL FORMzYEH FINAL FORM",
     "qAIN WITH ALEF MAKSURA FINAL FORMzYEH FINAL FORMqGHAIN WITH ALEF MAKSURA FINAL FORM",
     "$YEH FINAL FORMqSEEN WITH ALEF MAKSURA FINAL FORM!YEH FINAL FORM",
     "rHEEN WITH ALEF MAKSURA FINAL FORM$YEH FINAL FORMqHAH WITH ALEF MAKSURA FINAL FORM",
     "zYEH FINAL FORMqJEEM WITH ALEF MAKSURA FINAL FORM!YEH FINAL FORM",
     "qKHAH WITH ALEF MAKSURA FINAL FORM!YEH FINAL FORMqSAD WITH ALEF MAKSURA FINAL FORM",
     "zYEH FINAL FORMqDAD WITH ALEF MAKSURA FINAL FORMzYEH FINAL FORMqSHEEN WITH JEEM FINAL FORM",
     "$HAH FINAL FORM$KHAH FINAL FORM$MEEM FINAL FORM$REH FINAL FORMrEEN WITH REH FINAL FORM",
     "rAD WITH REH FINAL FORMqDAD WITH REH FINAL FORMqSHEEN WITH JEEM INITIAL FORM",
     "$HAH INITIAL FORM$KHAH INITIAL FORM$MEEM INITIAL FORMrEEN WITH HEH INITIAL FORM",
     "rHEEN WITH HEH INITIAL FORMqTAH WITH MEEM INITIAL FORMqSEEN WITH JEEM MEDIAL FORM",
     "!HAH MEDIAL FORM!KHAH MEDIAL FORMrHEEN WITH JEEM MEDIAL FORM$HAH MEDIAL FORM",
     "$KHAH MEDIAL FORMqTAH WITH MEEM MEDIAL FORMqZAH WITH MEEM MEDIAL FORM",
     "qALEF WITH FATHATAN FINAL FORM:ISOLATED FORMaORNATE LEFT PARENTHESIShRIGHT PARENTHESIS",
     "aARABIC LIGATURE RAHIMAHU ALLAAHsDI ALLAAHU ANH,AA,UM/AA.NNAqSALLALLAAHU ALAYHI WA-AALIH",
     "qALAYHI AS-SALAAMwM AS-SALAAMxAA AS-SALAAMw AS-SALAATU WAS-SALAAMqQUDDISA SIRRAH",
     "qSALLALLAHU ALAYHI WAAALIHEE WA-SALLAMqALAYHAA AS-SALAAMqTABAARAKA WA-TAAALAA",
     "qRAHIMAHUM ALLAAHqTEH WITH JEEM WITH MEEM INITIAL FORMzHAH WITH JEEM FINAL FORM",
     ">INITIAL FORM/MEEM INITIAL FORMzKHAH WITH MEEM INITIAL FORMzMEEM WITH JEEM INITIAL FORM",
     ":HAH INITIAL FORM:KHAH INITIAL FORMqJEEM WITH MEEM WITH HAH FINAL FORM?INITIAL FORM",
     "qHAH WITH MEEM WITH YEH FINAL FORM:ALEF MAKSURA FINAL FORM",
     "qSEEN WITH HAH WITH JEEM INITIAL FORM!JEEM WITH HAH INITIAL FORM;ALEF MAKSURA FINAL FORM",
     "!MEEM WITH HAH FINAL FORM?INITIAL FORM;JEEM INITIAL FORM;MEEM FINAL FORM@INITIAL FORM",
     "rAD WITH HAH WITH HAH FINAL FORM=INITIAL FORMzMEEM WITH MEEM FINAL FORM",
     "rHEEN WITH HAH WITH MEEM FINAL FORM@INITIAL FORM$JEEM WITH YEH FINAL FORM",
     "$MEEM WITH KHAH FINAL FORM^INITIAL FORM<MEEM FINAL FORM^INITIAL FORM",
     "qDAD WITH HAH WITH ALEF MAKSURA FINAL FORMzKHAH WITH MEEM FINAL FORM?INITIAL FORM",
     "qTAH WITH MEEM WITH HAH FINAL FORM>INITIAL FORM:MEEM INITIAL FORM:YEH FINAL FORM",
     "qAIN WITH JEEM WITH MEEM FINAL FORMzMEEM WITH MEEM FINAL FORM?INITIAL FORM",
     ":ALEF MAKSURA FINAL FORMqGHAIN WITH MEEM WITH MEEM FINAL FORM<YEH FINAL FORM",
     "<ALEF MAKSURA FINAL FORMqFEH WITH KHAH WITH MEEM FINAL FORM?INITIAL FORM",
     "qQAF WITH MEEM WITH HAH FINAL FORM:MEEM FINAL FORMqLAM WITH HAH WITH MEEM FINAL FORM",
     "/YEH FINAL FORM/ALEF MAKSURA FINAL FORMzJEEM WITH JEEM INITIAL FORM?FINAL FORM",
     "zKHAH WITH MEEM FINAL FORM?INITIAL FORMzMEEM WITH HAH FINAL FORM>INITIAL FORM",
     "qMEEM WITH HAH WITH JEEM INITIAL FORM:MEEM INITIAL FORM:YEH FINAL FORM",
     "!JEEM WITH HAH INITIAL FORM;MEEM INITIAL FORM!KHAH WITH JEEM INITIAL FORM",
     ";MEEM INITIAL FORM"]),
   (0xfd92, [
     "aARABIC LIGATURE MEEM WITH JEEM WITH KHAH INITIAL FORM",
     "qHEH WITH MEEM WITH JEEM INITIAL FORM:MEEM INITIAL FORM",
     "qNOON WITH HAH WITH MEEM INITIAL FORM:ALEF MAKSURA FINAL FORM!JEEM WITH MEEM FINAL FORM",
     "@INITIAL FORM;ALEF MAKSURA FINAL FORM!MEEM WITH YEH FINAL FORM;ALEF MAKSURA FINAL FORM",
     "qYEH WITH MEEM WITH MEEM FINAL FORM?INITIAL FORMqBEH WITH KHAH WITH YEH FINAL FORM",
     "qTEH WITH JEEM WITH YEH FINAL FORM:ALEF MAKSURA FINAL FORMzKHAH WITH YEH FINAL FORM",
     ":ALEF MAKSURA FINAL FORMzMEEM WITH YEH FINAL FORM:ALEF MAKSURA FINAL FORM",
     "qJEEM WITH MEEM WITH YEH FINAL FORM!HAH WITH ALEF MAKSURA FINAL FORM",
     "!MEEM WITH ALEF MAKSURA FINAL FORMqSEEN WITH KHAH WITH ALEF MAKSURA FINAL FORM",
     "rAD WITH HAH WITH YEH FINAL FORMrHEEN WITH HAH WITH YEH FINAL FORM",
     "qDAD WITH HAH WITH YEH FINAL FORMqLAM WITH JEEM WITH YEH FINAL FORM",
     "zMEEM WITH YEH FINAL FORMqYEH WITH HAH WITH YEH FINAL FORMzJEEM WITH YEH FINAL FORM",
     "zMEEM WITH YEH FINAL FORMqMEEM WITH MEEM WITH YEH FINAL FORM",
     "qQAF WITH MEEM WITH YEH FINAL FORMqNOON WITH HAH WITH YEH FINAL FORM",
     "qQAF WITH MEEM WITH HAH INITIAL FORMqLAM WITH HAH WITH MEEM INITIAL FORM",
     "qAIN WITH MEEM WITH YEH FINAL FORMqKAF WITH MEEM WITH YEH FINAL FORM",
     "qNOON WITH JEEM WITH HAH INITIAL FORMqMEEM WITH KHAH WITH YEH FINAL FORM",
     "qLAM WITH JEEM WITH MEEM INITIAL FORMqKAF WITH MEEM WITH MEEM FINAL FORM",
     "qLAM WITH JEEM WITH MEEM FINAL FORMqNOON WITH JEEM WITH HAH FINAL FORM",
     "qJEEM WITH HAH WITH YEH FINAL FORMqHAH WITH JEEM WITH YEH FINAL FORM",
     "qMEEM WITH JEEM WITH YEH FINAL FORMqFEH WITH MEEM WITH YEH FINAL FORM",
     "qBEH WITH HAH WITH YEH FINAL FORMqKAF WITH MEEM WITH MEEM INITIAL FORM",
     "qAIN WITH JEEM WITH MEEM INITIAL FORMqSAD WITH MEEM WITH MEEM INITIAL FORM",
     "rEEN WITH KHAH WITH YEH FINAL FORMqNOON WITH JEEM WITH YEH FINAL FORM"]),
   (0xfdcf, ["aARABIC LIGATURE SALAAMUHU ALAYNAA"]),
   (0xfdf0, [
     "aARABIC LIGATURE SALLA USED AS KORANIC STOP SIGN ISOLATED FORM",
     "qQALA USED AS KORANIC STOP SIGN ISOLATED FORMqALLAH ISOLATED FORMrKBAR ISOLATED FORM",
     "qMOHAMMAD ISOLATED FORMqSALAM ISOLATED FORMqRASOUL ISOLATED FORMqALAYHE ISOLATED FORM",
     "qWASALLAM ISOLATED FORMqSALLA ISOLATED FORMvLLAHOU ALAYHE WASALLAMqJALLAJALALOUHOU",
     "aRIAL SIGNaARABIC LIGATURE BISMILLAH AR-RAHMAN AR-RAHEEMqSUBHAANAHU WA TAAALAA",
     "qAZZA WA JALLaVARIATION SELECTOR-1t2t3t4t5t6t7t8t9t10u1u2u3u4u5u6",
     "aPRESENTATION FORM FOR VERTICAL COMMA+IDEOGRAPHIC COMMA_FULL STOP+COLON+SEMICOLON",
     "+EXCLAMATION MARK+QUESTION MARK+LEFT WHITE LENTICULAR BRACKET",
     "+RIGHT WHITE LENTICULAR BRAKCET+HORIZONTAL ELLIPSIS"]),
   (0xfe20, [
     "aCOMBINING LIGATURE LEFT HALFtRIGHT HALFkDOUBLE TILDE LEFT HALFxRIGHT HALF",
     "kMACRON LEFT HALFrRIGHT HALFkCONJOINING MACRONkLIGATURE LEFT HALF BELOWtRIGHT HALF BELOW",
     "kTILDE LEFT HALF BELOWqRIGHT HALF BELOWkMACRON LEFT HALF BELOWrRIGHT HALF BELOW",
     "kCONJOINING MACRON BELOWlYRILLIC TITLO LEFT HALFzRIGHT HALF",
     "aPRESENTATION FORM FOR VERTICAL TWO DOT LEADER+EM DASH,N DASH+LOW LINE+WAVY LOW LINE",
     "+LEFT PARENTHESIS+RIGHT PARENTHESIS+LEFT CURLY BRACKET+RIGHT CURLY BRACKET",
     "+LEFT TORTOISE SHELL BRACKET+RIGHT TORTOISE SHELL BRACKET+LEFT BLACK LENTICULAR BRACKET",
     "+RIGHT BLACK LENTICULAR BRACKET+LEFT DOUBLE ANGLE BRACKET+RIGHT DOUBLE ANGLE BRACKET",
     "+LEFT ANGLE BRACKET+RIGHT ANGLE BRACKET+LEFT CORNER BRACKET+RIGHT CORNER BRACKET",
     "+LEFT WHITE CORNER BRACKET+RIGHT WHITE CORNER BRACKETaSESAME DOTaWHITE SESAME DOT",
     "aPRESENTATION FORM FOR VERTICAL LEFT SQUARE BRACKET+RIGHT SQUARE BRACKETaDASHED OVERLINE",
     "aCENTRELINE OVERLINEaWAVY OVERLINEaDOUBLE WAVY OVERLINEbASHED LOW LINEaCENTRELINE LOW LINE",
     "aWAVY LOW LINEaSMALL COMMAgIDEOGRAPHIC COMMAgFULL STOP"]),
   (0xfe54, [
     "aSMALL SEMICOLONgCOLONgQUESTION MARKgEXCLAMATION MARKhM DASHgLEFT PARENTHESIS",
     "gRIGHT PARENTHESISgLEFT CURLY BRACKETgRIGHT CURLY BRACKETgLEFT TORTOISE SHELL BRACKET",
     "gRIGHT TORTOISE SHELL BRACKETgNUMBER SIGNgAMPERSANDhSTERISKgPLUS SIGNgHYPHEN-MINUS",
     "gLESS-THAN SIGNgGREATER-THAN SIGNgEQUALS SIGN"]),
   (0xfe68, ["aSMALL REVERSE SOLIDUSgDOLLAR SIGNgPERCENT SIGNgCOMMERCIAL AT"]),
   (0xfe70, [
     "aARABIC FATHATAN ISOLATED FORMhTATWEEL WITH FATHATAN ABOVEhDAMMATAN ISOLATED FORM",
     "hTAIL FRAGMENThKASRATAN ISOLATED FORM"]),
   (0xfe76, [
     "aARABIC FATHA ISOLATED FORMnMEDIAL FORMhDAMMA ISOLATED FORMnMEDIAL FORM",
     "hKASRA ISOLATED FORMnMEDIAL FORMhSHADDA ISOLATED FORMoMEDIAL FORMiUKUN ISOLATED FORM",
     "nMEDIAL FORMhLETTER HAMZA ISOLATED FORMoALEF WITH MADDA ABOVE ISOLATED FORM;FINAL FORM",
     "yHAMZA ABOVE ISOLATED FORM;FINAL FORMoWAW WITH HAMZA ABOVE ISOLATED FORM:FINAL FORM",
     "oALEF WITH HAMZA BELOW ISOLATED FORM;FINAL FORMoYEH WITH HAMZA ABOVE ISOLATED FORM",
     ":FINAL FORM:INITIAL FORM:MEDIAL FORMoALEF ISOLATED FORMtFINAL FORMoBEH ISOLATED FORM",
     "sFINAL FORMsINITIAL FORMsMEDIAL FORMoTEH MARBUTA ISOLATED FORM!FINAL FORMsISOLATED FORM",
     "sFINAL FORMsINITIAL FORMsMEDIAL FORMpHEH ISOLATED FORMtFINAL FORMtINITIAL FORMtMEDIAL FORM",
     "oJEEM ISOLATED FORMtFINAL FORMtINITIAL FORMtMEDIAL FORMoHAH ISOLATED FORMsFINAL FORM",
     "sINITIAL FORMsMEDIAL FORMoKHAH ISOLATED FORMtFINAL FORMtINITIAL FORMtMEDIAL FORM",
     "oDAL ISOLATED FORMsFINAL FORMoTHAL ISOLATED FORMtFINAL FORMoREH ISOLATED FORMsFINAL FORM",
     "oZAIN ISOLATED FORMtFINAL FORMoSEEN ISOLATED FORMtFINAL FORMtINITIAL FORMtMEDIAL FORM",
     "pHEEN ISOLATED FORMuFINAL FORMuINITIAL FORMuMEDIAL FORMpAD ISOLATED FORMsFINAL FORM",
     "sINITIAL FORMsMEDIAL FORMoDAD ISOLATED FORMsFINAL FORMsINITIAL FORMsMEDIAL FORM",
     "oTAH ISOLATED FORMsFINAL FORMsINITIAL FORMsMEDIAL FORMoZAH ISOLATED FORMsFINAL FORM",
     "sINITIAL FORMsMEDIAL FORMoAIN ISOLATED FORMsFINAL FORMsINITIAL FORMsMEDIAL FORM",
     "oGHAIN ISOLATED FORMuFINAL FORMuINITIAL FORMuMEDIAL FORMoFEH ISOLATED FORMsFINAL FORM",
     "sINITIAL FORMsMEDIAL FORMoQAF ISOLATED FORMsFINAL FORMsINITIAL FORMsMEDIAL FORM",
     "oKAF ISOLATED FORMsFINAL FORMsINITIAL FORMsMEDIAL FORMoLAM ISOLATED FORMsFINAL FORM",
     "sINITIAL FORMsMEDIAL FORMoMEEM ISOLATED FORMtFINAL FORMtINITIAL FORMtMEDIAL FORM",
     "oNOON ISOLATED FORMtFINAL FORMtINITIAL FORMtMEDIAL FORMoHEH ISOLATED FORMsFINAL FORM",
     "sINITIAL FORMsMEDIAL FORMoWAW ISOLATED FORMsFINAL FORMoALEF MAKSURA ISOLATED FORM",
     "$FINAL FORMoYEH ISOLATED FORMsFINAL FORMsINITIAL FORMsMEDIAL FORM",
     "iIGATURE LAM WITH ALEF WITH MADDA ABOVE ISOLATED FORM~E FINAL FORM",
     ":HAMZA ABOVE ISOLATED FORM~E FINAL FORM@BELOW ISOLATED FORM~W FINAL FORM*ISOLATED FORM",
     "*FINAL FORM"]),
   (0xfeff, ["aZERO WIDTH NO-BREAK SPACE"]),
   (0xff01, [
     "aFULLWIDTH EXCLAMATION MARKkQUOTATION MARKkNUMBER SIGNkDOLLAR SIGNkPERCENT SIGNkAMPERSAND",
     "lPOSTROPHEkLEFT PARENTHESISkRIGHT PARENTHESISkASTERISKkPLUS SIGNkCOMMAkHYPHEN-MINUS",
     "kFULL STOPkSOLIDUSkDIGIT ZEROqONEqTWOrHREEqFOURrIVEqSIXrEVENqEIGHTqNINEkCOLONkSEMICOLON",
     "kLESS-THAN SIGNkEQUALS SIGNkGREATER-THAN SIGNkQUESTION MARKkCOMMERCIAL AT",
     "kLATIN CAPITAL LETTER A+B+C+D+E+F+G+H+I+J+K+L+M+N+O+P+Q+R+S+T+U+V+W+X+Y+Z",
     "lEFT SQUARE BRACKETkREVERSE SOLIDUSlIGHT SQUARE BRACKETkCIRCUMFLEX ACCENTkLOW LINE",
     "kGRAVE ACCENTkLATIN SMALL LETTER A&B&C&D&E&F&G&H&I&J&K&L&M&N&O&P&Q&R&S&T&U&V&W&X&Y&Z",
     "lEFT CURLY BRACKETkVERTICAL LINEkRIGHT CURLY BRACKETkTILDEkLEFT WHITE PARENTHESIS",
     "kRIGHT WHITE PARENTHESISaHALFWIDTH IDEOGRAPHIC FULL STOPkLEFT CORNER BRACKET",
     "kRIGHT CORNER BRACKETkIDEOGRAPHIC COMMAkKATAKANA MIDDLE DOTtLETTER WO!SMALL A,I,U,E,O,YA.U",
     ".O,TUs-HIRAGANA PROLONGED SOUND MARKs LETTER A!I!U!E!O!KA$I$U$E$O!SA$I$U$E$O!TA$I$U$E$O!NA",
     "$I$U$E$O!HA$I$U$E$O!MA$I$U$E$O!YA$U$O!RA$I$U$E$O!WA!NtVOICED SOUND MARK",
     "tSEMI-VOICED SOUND MARKkHANGUL FILLERrLETTER KIYEOKySSANGKIYEOKyKIYEOK-SIOSyNIEUN&-CIEUC",
     "*HIEUHyTIKEUTySSANGTIKEUTyRIEUL&-KIYEOK*MIEUM*PIEUP*SIOS*THIEUTH*PHIEUPH*HIEUHyMIEUMyPIEUP",
     "ySSANGPIEUPyPIEUP-SIOSySIOSzSANGSIOSyIEUNGyCIEUCySSANGCIEUCyCHIEUCHyKHIEUKHyTHIEUTH",
     "yPHIEUPHyHIEUH"]),
   (0xffc2, ["aHALFWIDTH HANGUL LETTER AzEyYA!EyEOz"]),
   (0xffca, ["aHALFWIDTH HANGUL LETTER YEO!yOyWA!EyOE"]),
   (0xffd2, ["aHALFWIDTH HANGUL LETTER YOyUyWEO!zIyYU"]),
   (0xffda, ["aHALFWIDTH HANGUL LETTER EUyYIyI"]),
   (0xffe0, ["aFULLWIDTH CENT SIGNkPOUND SIGNkNOT SIGNkMACRONkBROKEN BARkYEN SIGNkWON SIGN"]),
   (0xffe8, [
     "aHALFWIDTH FORMS LIGHT VERTICALkLEFTWARDS ARROWkUPWARDS ARROWkRIGHTWARDS ARROW",
     "kDOWNWARDS ARROWkBLACK SQUAREkWHITE CIRCLE"]),
   (0xfff9, [
     "aINTERLINEAR ANNOTATION ANCHORxSEPARATORxTERMINATORaOBJECT REPLACEMENT CHARACTER",
     "aREPLACEMENT CHARACTER"])]

end TokenTemplate.Unicode
