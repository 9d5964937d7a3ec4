import TokenTemplate.Unicode.Name.Run

/-!
# Names of pictographs

The names that version 14 of the standard gives to characters:
game pieces, pictographs and tags.
-/

namespace TokenTemplate.Unicode

/-- Runs of characters with their names. -/
def pictographsNames : List NameRun :=
  [(0x1f000, [
     "aMAHJONG TILE EAST WINDnSOUTH WINDnWEST WINDnNORTH WINDnRED DRAGONnGREEN DRAGON",
     "nWHITE DRAGONnONE OF CHARACTERSnTWO OF CHARACTERSoHREE OF CHARACTERSnFOUR OF CHARACTERS",
     "oIVE OF CHARACTERSnSIX OF CHARACTERSoEVEN OF CHARACTERSnEIGHT OF CHARACTERS",
     "nNINE OF CHARACTERSnONE OF BAMBOOSnTWO OF BAMBOOSoHREE OF BAMBOOSnFOUR OF BAMBOOS",
     "oIVE OF BAMBOOSnSIX OF BAMBOOSoEVEN OF BAMBOOSnEIGHT OF BAMBOOSnNINE OF BAMBOOS",
     "nONE OF CIRCLESnTWO OF CIRCLESoHREE OF CIRCLESnFOUR OF CIRCLESoIVE OF CIRCLES",
     "nSIX OF CIRCLESoEVEN OF CIRCLESnEIGHT OF CIRCLESnNINE OF CIRCLESnPLUMnORCHIDnBAMBOO",
     "nCHRYSANTHEMUMnSPRINGoUMMERnAUTUMNnWINTERnJOKERnBACK"]),
   (0x1f030, [
     "aDOMINO TILE HORIZONTAL BACKw-00-00$1$2$3$4$5$6y1-00$1$2$3$4$5$6y2-00$1$2$3$4$5$6y3-00$1$2",
     "$3$4$5$6y4-00$1$2$3$4$5$6y5-00$1$2$3$4$5$6y6-00$1$2$3$4$5$6mVERTICAL BACKu-00-00z1z2z3z4z5",
     "z6w1-00z1z2z3z4z5z6w2-00z1z2z3z4z5z6w3-00z1z2z3z4z5z6w4-00z1z2z3z4z5z6w5-00z1z2z3z4z5z6",
     "w6-00z1z2z3z4z5z6"]),
   (0x1f0a0, [
     "aPLAYING CARD BACKnACE OF SPADESnTWO OF SPADESoHREE OF SPADESnFOUR OF SPADESoIVE OF SPADES",
     "nSIX OF SPADESoEVEN OF SPADESnEIGHT OF SPADESnNINE OF SPADESnTEN OF SPADESnJACK OF SPADES",
     "nKNIGHT OF SPADESnQUEEN OF SPADESnKING OF SPADES"]),
   (0x1f0b1, [
     "aPLAYING CARD ACE OF HEARTSnTWO OF HEARTSoHREE OF HEARTSnFOUR OF HEARTSoIVE OF HEARTS",
     "nSIX OF HEARTSoEVEN OF HEARTSnEIGHT OF HEARTSnNINE OF HEARTSnTEN OF HEARTSnJACK OF HEARTS",
     "nKNIGHT OF HEARTSnQUEEN OF HEARTSnKING OF HEARTSnRED JOKER"]),
   (0x1f0c1, [
     "aPLAYING CARD ACE OF DIAMONDSnTWO OF DIAMONDSoHREE OF DIAMONDSnFOUR OF DIAMONDS",
     "oIVE OF DIAMONDSnSIX OF DIAMONDSoEVEN OF DIAMONDSnEIGHT OF DIAMONDSnNINE OF DIAMONDS",
     "nTEN OF DIAMONDSnJACK OF DIAMONDSnKNIGHT OF DIAMONDSnQUEEN OF DIAMONDSnKING OF DIAMONDS",
     "nBLACK JOKER"]),
   (0x1f0d1, [
     "aPLAYING CARD ACE OF CLUBSnTWO OF CLUBSoHREE OF CLUBSnFOUR OF CLUBSoIVE OF CLUBS",
     "nSIX OF CLUBSoEVEN OF CLUBSnEIGHT OF CLUBSnNINE OF CLUBSnTEN OF CLUBSnJACK OF CLUBS",
     "nKNIGHT OF CLUBSnQUEEN OF CLUBSnKING OF CLUBSnWHITE JOKERnFOOLnTRUMP-1t2t3t4t5t6t7t8t9t10",
     "u1u2u3u4u5u6u7u8u9t20u1"]),
   (0x1f100, [
     "aDIGIT ZERO FULL STOPlCOMMAgONE COMMAgTWO COMMAhHREE COMMAgFOUR COMMAhIVE COMMAgSIX COMMA",
     "hEVEN COMMAgEIGHT COMMAgNINE COMMAcNGBAT CIRCLED SANS-SERIF DIGIT ZERO",
     "iNEGATIVE CIRCLED SANS-SERIF DIGIT ZEROaCIRCLED ZERO WITH SLASHiANTICLOCKWISE ARROW",
     "iDOLLAR SIGN WITH OVERLAID BACKSLASHaPARENTHESIZED LATIN CAPITAL LETTER A:B:C:D:E:F:G:H:I",
     ":J:K:L:M:N:O:P:Q:R:S:T:U:V:W:X:Y:ZaTORTOISE SHELL BRACKETED LATIN CAPITAL LETTER S",
     "aCIRCLED ITALIC LATIN CAPITAL LETTER C;RiCDiWZbOPYLEFT SYMBOL",
     "aSQUARED LATIN CAPITAL LETTER A&B&C&D&E&F&G&H&I&J&K&L&M&N&O&P&Q&R&S&T&U&V&W&X&Y&ZiHViMViSD",
     "jSiPPViWCaNEGATIVE CIRCLED LATIN CAPITAL LETTER A=B=C=D=E=F=G=H=I=J=K=L=M=N=O=P=Q=R=S=T=U",
     "=V=W=X=Y=ZaRAISED MC SIGNiD SIGNiR SIGNaCIRCLED CCj WITH OVERLAID BACKSLASHiHUMAN FIGURE",
     "aNEGATIVE SQUARED LATIN CAPITAL LETTER A=B=C=D=E=F=G=H=I=J=K=L=M=N=O=P=Q=R=S=T=U=V=W=X=Y=Z",
     "aCROSSED NEGATIVE SQUARED LATIN CAPITAL LETTER PaNEGATIVE SQUARED ICrPArSArABrWCaSQUARE DJ",
     "gD CLjOOLiFREEiIDiNEWjGiOKiSOSiUP WITH EXCLAMATION MARKiVSiTHREE DiSECOND SCREENiTWO K",
     "iFOUR KiEIGHT KiFIVE POINT ONEiSEVEN POINT ONEiTWENTY-TWO POINT TWOiSIXTY P",
     "iONE HUNDRED TWENTY PiLATIN SMALL LETTER DiHCjDRjI-RESiLOSSLESSiSHViUHDiVOD",
     "aMASK WORK SYMBOL"]),
   (0x1f1e6, [
     "aREGIONAL INDICATOR SYMBOL LETTER A.B.C.D.E.F.G.H.I.J.K.L.M.N.O.P.Q.R.S.T.U.V.W.X.Y.Z",
     "aSQUARE HIRAGANA HOKAgD KATAKANA KOKOrSA"]),
   (0x1f210, [
     "aSQUARED CJK UNIFIED IDEOGRAPH-624B*5B57+3CCiKATAKANA DEiCJK UNIFIED IDEOGRAPH-4E8C*591A",
     "*89E3*5929*4EA4*6620*7121*6599*524D+F8C+18D*65B0*521D*7D42+51F*8CA9*58F0+439*6F14+295+355",
     "*4E00.9*904A*5DE6*4E2D*53F3*6307*8D70*6253*7981+A7A*5408*6E80+709.8*7533*5272+5B6*914D"]),
   (0x1f240, [
     "aTORTOISE SHELL BRACKETED CJK UNIFIED IDEOGRAPH-672C~H-4E09~H-4E8C~H-5B89~H-70B9~H-6253",
     "~H-76D7~H-52DD~H-6557"]),
   (0x1f250, ["aCIRCLED IDEOGRAPH ADVANTAGEtCCEPT"]),
   (0x1f260, ["aROUNDED SYMBOL FOR FUtLUtSHOUtXItSHUANGXItCAI"]),
   (0x1f300, [
     "aCYCLONEaFOGGYaCLOSED UMBRELLAaNIGHT WITH STARSaSUNRISE OVER MOUNTAINShaCITYSCAPE AT DUSK",
     "aSUNSET OVER BUILDINGSaRAINBOWaBRIDGE AT NIGHTaWATER WAVEaVOLCANOaMILKY WAY",
     "aEARTH GLOBE EUROPE-AFRICAmAMERICASnSIA-AUSTRALIAaGLOBE WITH MERIDIANSaNEW MOON SYMBOL",
     "aWAXING CRESCENT MOON SYMBOLaFIRST QUARTER MOON SYMBOLaWAXING GIBBOUS MOON SYMBOL",
     "aFULL MOON SYMBOLaWANING GIBBOUS MOON SYMBOLaLAST QUARTER MOON SYMBOL",
     "aWANING CRESCENT MOON SYMBOLaCRESCENT MOONaNEW MOON WITH FACEaFIRST QUARTER MOON WITH FACE",
     "aLAST QUARTER MOON WITH FACEaFULL MOON WITH FACEaSUN WITH FACEaGLOWING STARaSHOOTING STAR",
     "aTHERMOMETERaBLACK DROPLETaWHITE SUNj WITH SMALL CLOUDkBEHIND CLOUDw WITH RAIN",
     "aCLOUD WITH RAINlSNOWlLIGHTNINGlTORNADOaFOGaWIND BLOWING FACEaHOT DOGaTACOaBURRITO",
     "aCHESTNUTaSEEDLINGaEVERGREEN TREEaDECIDUOUS TREEaPALM TREEaCACTUSaHOT PEPPERaTULIP",
     "aCHERRY BLOSSOMaROSEaHIBISCUSaSUNFLOWERaBLOSSOMaEAR OF MAIZEhRICEaHERBaFOUR LEAF CLOVER",
     "aMAPLE LEAFaFALLEN LEAFaLEAF FLUTTERING IN WINDaMUSHROOMaTOMATOaAUBERGINEaGRAPESaMELON",
     "aWATERMELONaTANGERINEaLEMONaBANANAaPINEAPPLEaRED APPLEaGREEN APPLEaPEARdCHaCHERRIES",
     "aSTRAWBERRYaHAMBURGERaSLICE OF PIZZAaMEAT ON BONEaPOULTRY LEGaRICE CRACKERfBALL",
     "aCOOKED RICEbURRY AND RICEaSTEAMING BOWLbPAGHETTIaBREADaFRENCH FRIESaROASTED SWEET POTATO",
     "aDANGOaODENaSUSHIaFRIED SHRIMPbISH CAKE WITH SWIRL DESIGNaSOFT ICE CREAMbHAVED ICE",
     "aICE CREAMaDOUGHNUTaCOOKIEbHOCOLATE BARbANDYaLOLLIPOPaCUSTARDaHONEY POTaSHORTCAKE",
     "aBENTO BOXaPOT OF FOODaCOOKINGaFORK AND KNIFEaTEACUP WITHOUT HANDLEaSAKE BOTTLE AND CUP",
     "aWINE GLASSaCOCKTAIL GLASSaTROPICAL DRINKaBEER MUGaCLINKING BEER MUGSaBABY BOTTLE",
     "aFORK AND KNIFE WITH PLATEaBOTTLE WITH POPPING CORKaPOPCORNaRIBBONaWRAPPED PRESENT",
     "aBIRTHDAY CAKEaJACK-O-LANTERNaCHRISTMAS TREEaFATHER CHRISTMASbIREWORKSi SPARKLERaBALLOON",
     "aPARTY POPPERaCONFETTI BALLaTANABATA TREEaCROSSED FLAGSaPINE DECORATIONaJAPANESE DOLLS",
     "aCARP STREAMERaWIND CHIMEaMOON VIEWING CEREMONYaSCHOOL SATCHELaGRADUATION CAP",
     "aHEART WITH TIP ON THE LEFTaBOUQUET OF FLOWERSaMILITARY MEDALaREMINDER RIBBON",
     "aMUSICAL KEYBOARD WITH JACKSaSTUDIO MICROPHONEaLEVEL SLIDERaCONTROL KNOBS",
     "aBEAMED ASCENDING MUSICAL NOTEShDESCENDING MUSICAL NOTESaFILM FRAMESaADMISSION TICKETS",
     "aCAROUSEL HORSEaFERRIS WHEELaROLLER COASTERaFISHING POLE AND FISHaMICROPHONEbOVIE CAMERA",
     "aCINEMAaHEADPHONEaARTIST PALETTEaTOP HATaCIRCUS TENTaTICKETaCLAPPER BOARDaPERFORMING ARTS",
     "aVIDEO GAMEaDIRECT HITaSLOT MACHINEaBILLIARDSaGAME DIEaBOWLINGaFLOWER PLAYING CARDS",
     "aMUSICAL NOTEcLTIPLE MUSICAL NOTESaSAXOPHONEaGUITARaMUSICAL KEYBOARDaTRUMPETaVIOLIN",
     "aMUSICAL SCOREaRUNNING SHIRT WITH SASHaTENNIS RACQUET AND BALLaSKI AND SKI BOOT",
     "aBASKETBALL AND HOOPaCHEQUERED FLAGaSNOWBOARDERaRUNNERaSURFERbPORTS MEDALaTROPHY",
     "aHORSE RACINGaAMERICAN FOOTBALLaRUGBY FOOTBALLaSWIMMERaWEIGHT LIFTERaGOLFER",
     "aRACING MOTORCYCLEhCARaCRICKET BAT AND BALLaVOLLEYBALLaFIELD HOCKEY STICK AND BALL",
     "aICE HOCKEY STICK AND PUCKaTABLE TENNIS PADDLE AND BALLaSNOW CAPPED MOUNTAINaCAMPING",
     "aBEACH WITH UMBRELLAbUILDING CONSTRUCTIONaHOUSE BUILDINGSaCITYSCAPE",
     "aDERELICT HOUSE BUILDINGaCLASSICAL BUILDINGaDESERTg ISLANDaNATIONAL PARKaSTADIUM",
     "aHOUSE BUILDINGgWITH GARDENaOFFICE BUILDINGaJAPANESE POST OFFICEaEUROPEAN POST OFFICE",
     "aHOSPITALaBANKaAUTOMATED TELLER MACHINEaHOTELaLOVE HOTELaCONVENIENCE STOREaSCHOOL",
     "aDEPARTMENT STOREaFACTORYaIZAKAYA LANTERNaJAPANESE CASTLEaEUROPEAN CASTLEaWHITE PENNANT",
     "aBLACK PENNANTaWAVING WHITE FLAGhBLACK FLAGaROSETTEaBLACK ROSETTEaLABEL",
     "aBADMINTON RACQUET AND SHUTTLECOCKbOW AND ARROWaAMPHORA",
     "aEMOJI MODIFIER FITZPATRICK TYPE-1-2,3,4,5,6aRATaMOUSEaOXaWATER BUFFALOaCOWaTIGERaLEOPARD",
     "aRABBITaCATaDRAGONaCROCODILEaWHALEaSNAILdKEaHORSEaRAMaGOATaSHEEPaMONKEYaROOSTERaCHICKEN",
     "aDOGaPIGaBOARaELEPHANTaOCTOPUSaSPIRAL SHELLaBUGaANTaHONEYBEEaLADY BEETLEaFISH",
     "aTROPICAL FISHaBLOWFISHaTURTLEaHATCHING CHICKaBABY CHICKaFRONT-FACING BABY CHICKaBIRD",
     "aPENGUINaKOALAaPOODLEaDROMEDARY CAMELaBACTRIAN CAMELaDOLPHINaMOUSE FACEaCOW FACE",
     "aTIGER FACEaRABBIT FACEaCAT FACEaDRAGON FACEaSPOUTING WHALEaHORSE FACEaMONKEY FACE",
     "aDOG FACEaPIG FACEaFROG FACEaHAMSTER FACEaWOLF FACEaBEAR FACEaPANDA FACEbIG NOSEbAW PRINTS",
     "aCHIPMUNKaEYESdbARaNOSEaMOUTHaTONGUEaWHITE UP POINTING BACKHAND INDEX",
     "gDOWN POINTING BACKHAND INDEXgLEFT POINTING BACKHAND INDEXgRIGHT POINTING BACKHAND INDEX",
     "aFISTED HAND SIGNaWAVING HAND SIGNaOK HAND SIGNaTHUMBS UP SIGNhDOWN SIGN",
     "aCLAPPING HANDS SIGNaOPEN HANDS SIGNaCROWNaWOMANS HATaEYEGLASSESaNECKTIEaT-SHIRTaJEANS",
     "aDRESSaKIMONOaBIKINIaWOMANS CLOTHESaPURSEaHANDBAGaPOUCHaMANS SHOEaATHLETIC SHOE",
     "aHIGH-HEELED SHOEaWOMANS SANDALhBOOTSaFOOTPRINTSaBUST IN SILHOUETTEeS IN SILHOUETTEbOY",
     "aGIRLaMANaWOMANaFAMILYaMAN AND WOMAN HOLDING HANDSaTWO MEN HOLDING HANDS",
     "eWOMEN HOLDING HANDSaPOLICE OFFICERaWOMAN WITH BUNNY EARSaBRIDE WITH VEIL",
     "aPERSON WITH BLOND HAIRaMAN WITH GUA PI MAOjTURBANaOLDER MANgWOMANaBABY",
     "aCONSTRUCTION WORKERaPRINCESSaJAPANESE OGREjGOBLINaGHOSTaBABY ANGELaEXTRATERRESTRIAL ALIEN",
     "aALIEN MONSTERaIMPaSKULLaINFORMATION DESK PERSONaGUARDSMANaDANCERaLIPSTICKaNAIL POLISH",
     "aFACE MASSAGEaHAIRCUTaBARBER POLEaSYRINGEaPILLaKISS MARKaLOVE LETTERaRINGaGEM STONEaKISS",
     "aBOUQUETaCOUPLE WITH HEARTaWEDDINGaBEATING HEARTbROKEN HEARTaTWO HEARTSaSPARKLING HEART",
     "aGROWING HEARTaHEART WITH ARROWaBLUE HEARTaGREEN HEARTaYELLOW HEARTaPURPLE HEART",
     "aHEART WITH RIBBONaREVOLVING HEARTSaHEART DECORATIONaDIAMOND SHAPE WITH A DOT INSIDE",
     "aELECTRIC LIGHT BULBaANGER SYMBOLaBOMBaSLEEPING SYMBOLaCOLLISION SYMBOL",
     "aSPLASHING SWEAT SYMBOLaDROPLETbASH SYMBOLaPILE OF POOaFLEXED BICEPSaDIZZY SYMBOL",
     "aSPEECH BALLOONaTHOUGHT BALLOONaWHITE FLOWERaHUNDRED POINTS SYMBOLaMONEY BAG",
     "aCURRENCY EXCHANGEaHEAVY DOLLAR SIGNaCREDIT CARDaBANKNOTE WITH YEN SIGNoDOLLAR SIGN",
     "oEURO SIGNoPOUND SIGNaMONEY WITH WINGSaCHART WITH UPWARDS TREND AND YEN SIGNaSEAT",
     "aPERSONAL COMPUTERaBRIEFCASEaMINIDISCaFLOPPY DISKaOPTICAL DISCaDVDaFILE FOLDER",
     "aOPEN FILE FOLDERaPAGE WITH CURLfFACING UPaCALENDARaTEAR-OFF CALENDARaCARD INDEX",
     "bHART WITH UPWARDS TRENDlDOWNWARDS TRENDaBAR CHARTaCLIPBOARDaPUSHPINaROUND PUSHPIN",
     "aPAPERCLIPaSTRAIGHT RULERaTRIANGULAR RULERaBOOKMARK TABSaLEDGERaNOTEBOOK",
     "i WITH DECORATIVE COVERaCLOSED BOOKaOPEN BOOKaGREEN BOOKaBLUE BOOKaORANGE BOOKaBOOKS",
     "aNAME BADGEaSCROLLaMEMOaTELEPHONE RECEIVERaPAGERaFAX MACHINEaSATELLITE ANTENNA",
     "aPUBLIC ADDRESS LOUDSPEAKERaCHEERING MEGAPHONEaOUTBOX TRAYaINBOX TRAYaPACKAGE",
     "aE-MAIL SYMBOLaINCOMING ENVELOPEaENVELOPE WITH DOWNWARDS ARROW ABOVE",
     "aCLOSED MAILBOX WITH LOWERED FLAGuRAISED FLAGaOPEN MAILBOX WITH RAISED FLAGsLOWERED FLAG",
     "aPOSTBOXeAL HORNaNEWSPAPERaMOBILE PHONEm WITH RIGHTWARDS ARROW AT LEFTaVIBRATION MODE",
     "aMOBILE PHONE OFFaNO MOBILE PHONESaANTENNA WITH BARSaCAMERAg WITH FLASHaVIDEO CAMERA",
     "aTELEVISIONaRADIOaVIDEOCASSETTEaFILM PROJECTORaPORTABLE STEREObRAYER BEADS",
     "aTWISTED RIGHTWARDS ARROWSaCLOCKWISE RIGHTWARDS AND LEFTWARDS OPEN CIRCLE ARROWS",
     "~E ARROWS WITH CIRCLED ONE OVERLAYkDOWNWARDS AND UPWARDS OPEN CIRCLE ARROWS",
     "aANTICLOCKWISE DOWNWARDS AND UPWARDS OPEN CIRCLE ARROWSaLOW BRIGHTNESS SYMBOL",
     "aHIGH BRIGHTNESS SYMBOLaSPEAKER WITH CANCELLATION STROKEhh WITH ONE SOUND WAVE",
     "nTHREE SOUND WAVESaBATTERYaELECTRIC PLUGaLEFT-POINTING MAGNIFYING GLASS",
     "aRIGHT-POINTING MAGNIFYING GLASSaLOCK WITH INK PENaCLOSED LOCK WITH KEYaKEYaLOCKaOPEN LOCK",
     "aBELLe WITH CANCELLATION STROKEbOOKMARKaLINK SYMBOLaRADIO BUTTON",
     "aBACK WITH LEFTWARDS ARROW ABOVEaEND WITH LEFTWARDS ARROW ABOVE",
     "aON WITH EXCLAMATION MARK WITH LEFT RIGHT ARROW ABOVEaSOON WITH RIGHTWARDS ARROW ABOVE",
     "aTOP WITH UPWARDS ARROW ABOVEaNO ONE UNDER EIGHTEEN SYMBOLaKEYCAP TEN",
     "aINPUT SYMBOL FOR LATIN CAPITAL LETTERSxSMALL LETTERSrNUMBERSrSYMBOLSrLATIN LETTERSaFIRE",
     "aELECTRIC TORCHaWRENCHaHAMMERaNUT AND BOLTaHOCHOaPISTOLaMICROSCOPEaTELESCOPEaCRYSTAL BALL",
     "aSIX POINTED STAR WITH MIDDLE DOTaJAPANESE SYMBOL FOR BEGINNERaTRIDENT EMBLEM",
     "aBLACK SQUARE BUTTONaWHITE SQUARE BUTTONaLARGE RED CIRCLEgBLUE CIRCLEgORANGE DIAMOND",
     "gBLUE DIAMONDaSMALL ORANGE DIAMONDgBLUE DIAMONDaUP-POINTING RED TRIANGLE",
     "aDOWN-POINTING RED TRIANGLEaUP-POINTING SMALL RED TRIANGLE",
     "aDOWN-POINTING SMALL RED TRIANGLEaLOWER RIGHT SHADOWED WHITE CIRCLE",
     "aUPPER RIGHT SHADOWED WHITE CIRCLEaCIRCLED CROSS POMMEEbROSS POMMEE WITH HALF-CIRCLE BELOW",
     "maNOTCHED LEFT SEMICIRCLE WITH THREE DOTSiRIGHT SEMICIRCLE WITH THREE DOTS",
     "aSYMBOL FOR MARKS CHAPTERaWHITE LATIN CROSSaHEAVY LATIN CROSSaCELTIC CROSSaOM SYMBOL",
     "aDOVE OF PEACEaKAABAaMOSQUEaSYNAGOGUEaMENORAH WITH NINE BRANCHESaBOWL OF HYGIEIA",
     "aCLOCK FACE ONE OCLOCKlTWO OCLOCKmHREE OCLOCKlFOUR OCLOCKmIVE OCLOCKlSIX OCLOCK",
     "mEVEN OCLOCKlEIGHT OCLOCKlNINE OCLOCKlTEN OCLOCKlELEVEN OCLOCKlTWELVE OCLOCKlONE-THIRTY",
     "lTWO-THIRTYmHREE-THIRTYlFOUR-THIRTYmIVE-THIRTYlSIX-THIRTYmEVEN-THIRTYlEIGHT-THIRTY",
     "lNINE-THIRTYlTEN-THIRTYlELEVEN-THIRTYlTWELVE-THIRTYaRIGHT SPEAKERn WITH ONE SOUND WAVE",
     "tTHREE SOUND WAVESaBULLHORNi WITH SOUND WAVESaRINGING BELLaBOOKaCANDLEaMANTELPIECE CLOCK",
     "aBLACK SKULL AND CROSSBONESaNO PIRACYaHOLEaMAN IN BUSINESS SUIT LEVITATINGaSLEUTH OR SPY",
     "aDARK SUNGLASSESaSPIDERg WEBaJOYSTICKaMAN DANCINGaLEFT HAND TELEPHONE RECEIVER",
     "aTELEPHONE RECEIVER WITH PAGEaRIGHT HAND TELEPHONE RECEIVERaWHITE TOUCHTONE TELEPHONE",
     "aBLACK TOUCHTONE TELEPHONEaTELEPHONE ON TOP OF MODEMaCLAMSHELL MOBILE PHONE",
     "aBACK OF ENVELOPEaSTAMPED ENVELOPEaENVELOPE WITH LIGHTNINGaFLYING ENVELOPE",
     "aPEN OVER STAMPED ENVELOPEaLINKED PAPERCLIPSaBLACK PUSHPINaLOWER LEFT PENCILlBALLPOINT PEN",
     "lFOUNTAIN PENlPAINTBRUSHlCRAYONbEFT WRITING HANDaTURNED OK HAND SIGN",
     "aRAISED HAND WITH FINGERS SPLAYEDbEVERSED RAISED HAND WITH FINGERS SPLAYEDjTHUMBS UP SIGN",
     "qDOWN SIGNjVICTORY HANDjHAND WITH MIDDLE FINGER EXTENDED",
     "bAISED HAND WITH PART BETWEEN MIDDLE AND RING FINGERSaWHITE DOWN POINTING LEFT HAND INDEX",
     "aSIDEWAYS WHITE LEFT POINTING INDEXpRIGHT POINTING INDEXjBLACK LEFT POINTING INDEX",
     "pRIGHT POINTING INDEXaBLACK LEFT POINTING BACKHAND INDEXgRIGHT POINTING BACKHAND INDEX",
     "aSIDEWAYS WHITE UP POINTING INDEXpDOWN POINTING INDEXjBLACK UP POINTING INDEX",
     "pDOWN POINTING INDEXaBLACK UP POINTING BACKHAND INDEXgDOWN POINTING BACKHAND INDEXgHEART",
     "aDESKTOP COMPUTERaKEYBOARD AND MOUSEaTHREE NETWORKED COMPUTERSaPRINTERbOCKET CALCULATOR",
     "aBLACK HARD SHELL FLOPPY DISKaWHITE HARD SHELL FLOPPY DISKaSOFT SHELL FLOPPY DISK",
     "aTAPE CARTRIDGEaWIRED KEYBOARDaONE BUTTON MOUSEaTWO BUTTON MOUSEbHREE BUTTON MOUSE",
     "bRACKBALLaOLD PERSONAL COMPUTERaHARD DISKaSCREENaPRINTER ICONaFAX ICONaOPTICAL DISC ICON",
     "aDOCUMENT WITH TEXTs AND PICTUREoPICTUREaFRAME WITH PICTURElTILESlAN XaBLACK FOLDERaFOLDER",
     "aOPEN FOLDERaCARD INDEX DIVIDERSfFILE BOXaFILE CABINETaEMPTY NOTEk PAGEnDaNOTEe PAGEhD",
     "aEMPTY DOCUMENTgPAGEkSaDOCUMENTaPAGEeSaWASTEBASKETaSPIRAL NOTE PADhCALENDAR PAD",
     "aDESKTOP WINDOWaMINIMIZEbAXIMIZEaOVERLAPaCLOCKWISE RIGHT AND LEFT SEMICIRCLE ARROWS",
     "bANCELLATION XaINCREASE FONT SIZE SYMBOLaDECREASE FONT SIZE SYMBOLaCOMPRESSIONaOLD KEY",
     "aROLLED-UP NEWSPAPERaPAGE WITH CIRCLED TEXTaSTOCK CHARTaDAGGER KNIFEaLIPS",
     "aSPEAKING HEAD IN SILHOUETTEaTHREE RAYS ABOVElBELOWlLEFTlRIGHTaLEFT SPEECH BUBBLE",
     "aRIGHT SPEECH BUBBLEaTWO SPEECH BUBBLESbHREE SPEECH BUBBLESaLEFT THOUGHT BUBBLE",
     "aRIGHT THOUGHT BUBBLEaLEFT ANGER BUBBLEaRIGHT ANGER BUBBLEaMOOD BUBBLE",
     "aLIGHTNING MOOD BUBBLEoaBALLOT BOX WITH BALLOThSCRIPT XhBOX WITH SCRIPT XjLD SCRIPT X",
     "jX WITH BOLD SCRIPT XaLIGHT CHECK MARKaBALLOT BOX WITH BOLD CHECKaWORLD MAPaMOUNT FUJI",
     "aTOKYO TOWERaSTATUE OF LIBERTYbILHOUETTE OF JAPANaMOYAIaGRINNING FACEn WITH SMILING EYES",
     "aFACE WITH TEARS OF JOYaSMILING FACE WITH OPEN MOUTH% AND SMILING EYES.COLD SWEAT",
     ".TIGHTLY-CLOSED EYESsHALOtORNSaWINKING FACEaSMILING FACE WITH SMILING EYES",
     "aFACE SAVOURING DELICIOUS FOODaRELIEVED FACEaSMILING FACE WITH HEART-SHAPED EYES",
     "sSUNGLASSESdRKING FACEaNEUTRAL FACEaEXPRESSIONLESS FACEaUNAMUSED FACEaFACE WITH COLD SWEAT",
     "aPENSIVE FACEaCONFUSED FACEeOUNDED FACEaKISSING FACEaFACE THROWING A KISS",
     "aKISSING FACE WITH SMILING EYESsCLOSED EYESaFACE WITH STUCK-OUT TONGUE! AND WINKING EYE",
     "+TIGHTLY-CLOSED EYESaDISAPPOINTED FACEaWORRIED FACEaANGRY FACEaPOUTING FACEaCRYING FACE",
     "aPERSEVERING FACEaFACE WITH LOOK OF TRIUMPHaDISAPPOINTED BUT RELIEVED FACE",
     "aFROWNING FACE WITH OPEN MOUTHaANGUISHED FACEaFEARFUL FACEaWEARY FACEaSLEEPY FACE",
     "aTIRED FACEaGRIMACING FACEaLOUDLY CRYING FACEaFACE WITH OPEN MOUTHaHUSHED FACE",
     "aFACE WITH OPEN MOUTH AND COLD SWEATfSCREAMING IN FEARaASTONISHED FACEaFLUSHED FACE",
     "aSLEEPING FACEaDIZZY FACEaFACE WITHOUT MOUTHj MEDICAL MASK",
     "aGRINNING CAT FACE WITH SMILING EYESaCAT FACE WITH TEARS OF JOY",
     "aSMILING CAT FACE WITH OPEN MOUTHwHEART-SHAPED EYESaCAT FACE WITH WRY SMILE",
     "aKISSING CAT FACE WITH CLOSED EYESaPOUTING CAT FACEaCRYING CAT FACEaWEARY CAT FACE",
     "aSLIGHTLY FROWNING FACEjSMILING FACEaUPSIDE-DOWN FACEaFACE WITH ROLLING EYES",
     "kNO GOOD GESTUREkOK GESTUREaPERSON BOWING DEEPLYaSEE-NO-EVIL MONKEYaHEAR-NO-EVIL MONKEY",
     "aSPEAK-NO-EVIL MONKEYaHAPPY PERSON RAISING ONE HAND",
     "aPERSON RAISING BOTH HANDS IN CELEBRATIONhFROWNINGhWITH POUTING FACEmFOLDED HANDS",
     "aNORTH WEST POINTING LEAFaSOUTH WEST POINTING LEAFaNORTH EAST POINTING LEAF",
     "aSOUTH EAST POINTING LEAFaTURNED NORTH WEST POINTING LEAFhSOUTH WEST POINTING LEAF",
     "hNORTH EAST POINTING LEAFhSOUTH EAST POINTING LEAFaNORTH WEST POINTING VINE LEAF",
     "aSOUTH WEST POINTING VINE LEAFaNORTH EAST POINTING VINE LEAFaSOUTH EAST POINTING VINE LEAF",
     "aHEAVY NORTH WEST POINTING VINE LEAFgSOUTH WEST POINTING VINE LEAF",
     "gNORTH EAST POINTING VINE LEAFgSOUTH EAST POINTING VINE LEAFaNORTH WEST POINTING BUD",
     "aSOUTH WEST POINTING BUDaNORTH EAST POINTING BUDaSOUTH EAST POINTING BUD",
     "aHEAVY NORTH WEST POINTING BUDgSOUTH WEST POINTING BUDgNORTH EAST POINTING BUD",
     "gSOUTH EAST POINTING BUDbOLLOW QUILT SQUARE ORNAMENT% IN BLACK SQUARE",
     "aSOLID QUILT SQUARE ORNAMENT$ IN BLACK SQUAREaLEFTWARDS ROCKETaUPWARDS ROCKET",
     "aRIGHTWARDS ROCKETaDOWNWARDS ROCKETaSCRIPT LIGATURE ET ORNAMENT",
     "aHEAVY SCRIPT LIGATURE ET ORNAMENTaLIGATURE OPEN ET ORNAMENT",
     "aHEAVY LIGATURE OPEN ET ORNAMENTgAMPERSAND ORNAMENTaSWASH AMPERSAND ORNAMENT",
     "bANS-SERIF HEAVY DOUBLE TURNED COMMA QUOTATION MARK ORNAMENTyCOMMA QUOTATION MARK ORNAMENT",
     "rLOW DOUBLE COMMA QUOTATION MARK ORNAMENTaHEAVY INTERROBANG ORNAMENT",
     "aSANS-SERIF INTERROBANG ORNAMENTaHEAVY SANS-SERIF INTERROBANG ORNAMENTaVERY HEAVY SOLIDUS",
     "lREVERSE SOLIDUSaCHECKER BOARDaREVERSE CHECKER BOARDbOCKETaHELICOPTERaSTEAM LOCOMOTIVE",
     "aRAILWAY CARaHIGH-SPEED TRAINq WITH BULLET NOSEaTRAINaMETROaLIGHT RAILaSTATIONaTRAMe CAR",
     "aBUSaONCOMING BUSaTROLLEYBUSaBUS STOPaMINIBUSaAMBULANCEaFIRE ENGINEaPOLICE CAR",
     "aONCOMING POLICE CARaTAXIaONCOMING TAXIaAUTOMOBILEaONCOMING AUTOMOBILE",
     "aRECREATIONAL VEHICLEaDELIVERY TRUCKaARTICULATED LORRYaTRACTORaMONORAILcUNTAIN RAILWAY",
     "aSUSPENSION RAILWAYaMOUNTAIN CABLEWAYaAERIAL TRAMWAYaSHIPaROWBOATaSPEEDBOAT",
     "aHORIZONTAL TRAFFIC LIGHTaVERTICAL TRAFFIC LIGHTaCONSTRUCTION SIGN",
     "aPOLICE CARS REVOLVING LIGHTaTRIANGULAR FLAG ON POSTaDOORaNO ENTRY SIGNaSMOKING SYMBOL",
     "aNO SMOKING SYMBOLaPUT LITTER IN ITS PLACE SYMBOLaDO NOT LITTER SYMBOL",
     "aPOTABLE WATER SYMBOLaNON-POTABLE WATER SYMBOLaBICYCLEaNO BICYCLESaBICYCLIST",
     "aMOUNTAIN BICYCLISTaPEDESTRIANaNO PEDESTRIANSaCHILDREN CROSSINGaMENS SYMBOLaWOMENS SYMBOL",
     "aRESTROOMaBABY SYMBOLaTOILETaWATER CLOSETaSHOWERaBATHeTUBaPASSPORT CONTROLaCUSTOMS",
     "aBAGGAGE CLAIMaLEFT LUGGAGEaTRIANGLE WITH ROUNDED CORNERSaPROHIBITED SIGN",
     "aCIRCLED INFORMATION SOURCEaBOYS SYMBOLaGIRLS SYMBOLaCOUCH AND LAMPaSLEEPING ACCOMMODATION",
     "bHOPPING BAGSaBELLHOP BELLcDaPLACE OF WORSHIPaOCTAGONAL SIGNaSHOPPING TROLLEYbTUPAaPAGODA",
     "aHINDU TEMPLEbUTaELEVATOR"]),
   (0x1f6dd, [
     "aPLAYGROUND SLIDEaWHEELaRING BUOYaHAMMER AND WRENCHaSHIELDaOIL DRUMaMOTORWAYaRAILWAY TRACK",
     "aMOTOR BOATaUP-POINTING MILITARY AIRPLANEmAIRPLANEmSMALL AIRPLANEaSMALL AIRPLANE",
     "aNORTHEAST-POINTING AIRPLANEaAIRPLANE DEPARTUREjARRIVING"]),
   (0x1f6f0, [
     "aSATELLITEaONCOMING FIRE ENGINEaDIESEL LOCOMOTIVEaPASSENGER SHIPaSCOOTERaMOTOR SCOOTER",
     "aCANOEaSLEDaFLYING SAUCERaSKATEBOARDaAUTO RICKSHAWaPICKUP TRUCKaROLLER SKATE"]),
   (0x1f700, [
     "aALCHEMICAL SYMBOL FOR QUINTESSENCEwAIRwFIREwEARTHwWATERwAQUAFORTIS! REGIA,-2$VITAE,-2",
     "wVINEGAR&-2*3wSULFURwPHILOSOPHERS SULFURwBLACK SULFURwMERCURY SUBLIMATE>-2?3wCINNABARwSALT",
     "wNITREwVITRIOL&-2wROCK SALT+-2wGOLDwSILVERwIRON ORE*-2wCROCUS OF IRONwREGULUS OF IRON",
     "wCOPPER OREwIRON-COPPER OREwSUBLIMATE OF COPPERwCROCUS OF COPPER=-2xOPPER ANTIMONIATE",
     "wSALT OF COPPER ANTIMONIATExUBLIMATE OF SALT OF COPPERwVERDIGRISwTIN OREwLEAD ORE",
     "wANTIMONY OREwSUBLIMATE OF ANTIMONYxALT OF ANTIMONYxUBLIMATE OF SALT OF ANTIMONY",
     "wVINEGAR OF ANTIMONYwREGULUS OF ANTIMONY@-2&&-2*3*4wALKALI%-2wMARCASITEwSAL-AMMONIAC",
     "wARSENICwREALGAR&-2wAURIPIGMENTwBISMUTH OREwTARTAR%-2wQUICK LIMEwBORAX$-2%3wALUMwOIL",
     "wSPIRITwTINCTUREwGUMwWAXwPOWDERwCALXwTUTTYwCAPUT MORTUUMwSCEPTER OF JOVEwCADUCEUSwTRIDENT",
     "wSTARRED TRIDENTwLODESTONEwSOAPwURINEwHORSE DUNGwASHESwPOT ASHESwBRICKwPOWDERED BRICK",
     "wAMALGAMwSTRATUM SUPER STRATUM_-2xUBLIMATIONwPRECIPITATEwDISTILLzSOLVE*-2wPURIFY",
     "yTREFACTIONwCRUCIBLE*-2+3+4+5wALEMBICwBATH OF MARY*VAPOURSwRETORTwHOURwNIGHTwDAY-NIGHT",
     "wMONTHwHALF DRAM$OUNCE"]),
   (0x1f780, [
     "aBLACK LEFT-POINTING ISOSCELES RIGHT TRIANGLEgUP-POINTING ISOSCELES RIGHT TRIANGLE",
     "gRIGHT-POINTING ISOSCELES RIGHT TRIANGLEgDOWN-POINTING ISOSCELES RIGHT TRIANGLE",
     "gSLIGHTLY SMALL CIRCLEaMEDIUM BOLD WHITE CIRCLEaBOLD WHITE CIRCLEaHEAVY WHITE CIRCLE",
     "aVERY HEAVY WHITE CIRCLEaEXTREMELY HEAVY WHITE CIRCLE",
     "aWHITE CIRCLE CONTAINING BLACK SMALL CIRCLEaROUND TARGETaBLACK TINY SQUARE",
     "gSLIGHTLY SMALL SQUAREaLIGHT WHITE SQUAREaMEDIUM WHITE SQUAREaBOLD WHITE SQUARE",
     "aHEAVY WHITE SQUAREaVERY HEAVY WHITE SQUAREaEXTREMELY HEAVY WHITE SQUARE",
     "aWHITE SQUARE CONTAINING BLACK VERY SMALL SQUARE*MEDIUM SQUAREaSQUARE TARGET",
     "aBLACK TINY DIAMONDgVERY SMALL DIAMONDgMEDIUM SMALL DIAMOND",
     "aWHITE DIAMOND CONTAINING BLACK VERY SMALL DIAMOND+MEDIUM DIAMONDaDIAMOND TARGET",
     "aBLACK TINY LOZENGEgVERY SMALL LOZENGEgMEDIUM SMALL LOZENGE",
     "aWHITE LOZENGE CONTAINING BLACK SMALL LOZENGEaTHIN GREEK CROSSaLIGHT GREEK CROSS",
     "aMEDIUM GREEK CROSSaBOLD GREEK CROSSaVERY BOLD GREEK CROSSfHEAVY GREEK CROSS",
     "aEXTREMELY HEAVY GREEK CROSSaTHIN SALTIREaLIGHT SALTIREaMEDIUM SALTIREaBOLD SALTIRE",
     "aHEAVY SALTIREaVERY HEAVY SALTIREaEXTREMELY HEAVY SALTIREaLIGHT FIVE SPOKED ASTERISK",
     "aMEDIUM FIVE SPOKED ASTERISKaBOLD FIVE SPOKED ASTERISKaHEAVY FIVE SPOKED ASTERISK",
     "aVERY HEAVY FIVE SPOKED ASTERISKaEXTREMELY HEAVY FIVE SPOKED ASTERISK",
     "aLIGHT SIX SPOKED ASTERISKaMEDIUM SIX SPOKED ASTERISKaBOLD SIX SPOKED ASTERISK",
     "aHEAVY SIX SPOKED ASTERISKaVERY HEAVY SIX SPOKED ASTERISK",
     "aEXTREMELY HEAVY SIX SPOKED ASTERISKaLIGHT EIGHT SPOKED ASTERISK",
     "aMEDIUM EIGHT SPOKED ASTERISKaBOLD EIGHT SPOKED ASTERISKaHEAVY EIGHT SPOKED ASTERISK",
     "aVERY HEAVY EIGHT SPOKED ASTERISKaLIGHT THREE POINTED BLACK STAR",
     "aMEDIUM THREE POINTED BLACK STARaTHREE POINTED BLACK STAR",
     "aMEDIUM THREE POINTED PINWHEEL STARaLIGHT FOUR POINTED BLACK STAR",
     "aMEDIUM FOUR POINTED BLACK STARaFOUR POINTED BLACK STARaMEDIUM FOUR POINTED PINWHEEL STAR",
     "aREVERSE LIGHT FOUR POINTED PINWHEEL STARaLIGHT FIVE POINTED BLACK STAR",
     "aHEAVY FIVE POINTED BLACK STARaMEDIUM SIX POINTED BLACK STARaHEAVY SIX POINTED BLACK STAR",
     "aSIX POINTED PINWHEEL STARaMEDIUM EIGHT POINTED BLACK STARaHEAVY EIGHT POINTED BLACK STAR",
     "aVERY HEAVY EIGHT POINTED BLACK STARaHEAVY EIGHT POINTED PINWHEEL STAR",
     "aLIGHT TWELVE POINTED BLACK STARaHEAVY TWELVE POINTED BLACK STARvPINWHEEL STAR",
     "aCIRCLED TRIANGLEaNEGATIVE CIRCLED TRIANGLEaCIRCLED SQUAREaNEGATIVE CIRCLED SQUARE"]),
   (0x1f7e0, [
     "aLARGE ORANGE CIRCLEgYELLOW CIRCLEgGREEN CIRCLEgPURPLE CIRCLEgBROWN CIRCLEgRED SQUARE",
     "gBLUE SQUAREgORANGE SQUAREgYELLOW SQUAREgGREEN SQUAREgPURPLE SQUAREgBROWN SQUARE"]),
   (0x1f7f0, ["aHEAVY EQUALS SIGN"]),
   (0x1f800, [
     "aLEFTWARDS ARROW WITH SMALL TRIANGLE ARROWHEADaUPWARDS ARROW WITH SMALL TRIANGLE ARROWHEAD",
     "aRIGHTWARDS ARROW WITH SMALL TRIANGLE ARROWHEAD",
     "aDOWNWARDS ARROW WITH SMALL TRIANGLE ARROWHEAD",
     "aLEFTWARDS ARROW WITH MEDIUM TRIANGLE ARROWHEAD",
     "aUPWARDS ARROW WITH MEDIUM TRIANGLE ARROWHEAD",
     "aRIGHTWARDS ARROW WITH MEDIUM TRIANGLE ARROWHEAD",
     "aDOWNWARDS ARROW WITH MEDIUM TRIANGLE ARROWHEAD",
     "aLEFTWARDS ARROW WITH LARGE TRIANGLE ARROWHEADaUPWARDS ARROW WITH LARGE TRIANGLE ARROWHEAD",
     "aRIGHTWARDS ARROW WITH LARGE TRIANGLE ARROWHEAD",
     "aDOWNWARDS ARROW WITH LARGE TRIANGLE ARROWHEAD"]),
   (0x1f810, [
     "aLEFTWARDS ARROW WITH SMALL EQUILATERAL ARROWHEAD",
     "aUPWARDS ARROW WITH SMALL EQUILATERAL ARROWHEAD",
     "aRIGHTWARDS ARROW WITH SMALL EQUILATERAL ARROWHEAD",
     "aDOWNWARDS ARROW WITH SMALL EQUILATERAL ARROWHEAD",
     "aLEFTWARDS ARROW WITH EQUILATERAL ARROWHEADaUPWARDS ARROW WITH EQUILATERAL ARROWHEAD",
     "aRIGHTWARDS ARROW WITH EQUILATERAL ARROWHEADaDOWNWARDS ARROW WITH EQUILATERAL ARROWHEAD",
     "aHEAVY LEFTWARDS ARROW WITH EQUILATERAL ARROWHEADgUPWARDS ARROW WITH EQUILATERAL ARROWHEAD",
     "gRIGHTWARDS ARROW WITH EQUILATERAL ARROWHEADgDOWNWARDS ARROW WITH EQUILATERAL ARROWHEAD",
     "gLEFTWARDS ARROW WITH LARGE EQUILATERAL ARROWHEAD",
     "gUPWARDS ARROW WITH LARGE EQUILATERAL ARROWHEAD",
     "gRIGHTWARDS ARROW WITH LARGE EQUILATERAL ARROWHEAD",
     "gDOWNWARDS ARROW WITH LARGE EQUILATERAL ARROWHEAD",
     "aLEFTWARDS TRIANGLE-HEADED ARROW WITH NARROW SHAFT",
     "aUPWARDS TRIANGLE-HEADED ARROW WITH NARROW SHAFT",
     "aRIGHTWARDS TRIANGLE-HEADED ARROW WITH NARROW SHAFT",
     "aDOWNWARDS TRIANGLE-HEADED ARROW WITH NARROW SHAFT",
     "aLEFTWARDS TRIANGLE-HEADED ARROW WITH MEDIUM SHAFT",
     "aUPWARDS TRIANGLE-HEADED ARROW WITH MEDIUM SHAFT",
     "aRIGHTWARDS TRIANGLE-HEADED ARROW WITH MEDIUM SHAFT",
     "aDOWNWARDS TRIANGLE-HEADED ARROW WITH MEDIUM SHAFT",
     "aLEFTWARDS TRIANGLE-HEADED ARROW WITH BOLD SHAFT",
     "aUPWARDS TRIANGLE-HEADED ARROW WITH BOLD SHAFT",
     "aRIGHTWARDS TRIANGLE-HEADED ARROW WITH BOLD SHAFT",
     "aDOWNWARDS TRIANGLE-HEADED ARROW WITH BOLD SHAFT",
     "aLEFTWARDS TRIANGLE-HEADED ARROW WITH HEAVY SHAFT",
     "aUPWARDS TRIANGLE-HEADED ARROW WITH HEAVY SHAFT",
     "aRIGHTWARDS TRIANGLE-HEADED ARROW WITH HEAVY SHAFT",
     "aDOWNWARDS TRIANGLE-HEADED ARROW WITH HEAVY SHAFT",
     "aLEFTWARDS TRIANGLE-HEADED ARROW WITH VERY HEAVY SHAFT",
     "aUPWARDS TRIANGLE-HEADED ARROW WITH VERY HEAVY SHAFT",
     "aRIGHTWARDS TRIANGLE-HEADED ARROW WITH VERY HEAVY SHAFT",
     "aDOWNWARDS TRIANGLE-HEADED ARROW WITH VERY HEAVY SHAFTaLEFTWARDS FINGER-POST ARROW",
     "aUPWARDS FINGER-POST ARROWaRIGHTWARDS FINGER-POST ARROWaDOWNWARDS FINGER-POST ARROW",
     "aLEFTWARDS SQUARED ARROWaUPWARDS SQUARED ARROWaRIGHTWARDS SQUARED ARROW",
     "aDOWNWARDS SQUARED ARROWaLEFTWARDS COMPRESSED ARROWaUPWARDS COMPRESSED ARROW",
     "aRIGHTWARDS COMPRESSED ARROWaDOWNWARDS COMPRESSED ARROWaLEFTWARDS HEAVY COMPRESSED ARROW",
     "aUPWARDS HEAVY COMPRESSED ARROWaRIGHTWARDS HEAVY COMPRESSED ARROW",
     "aDOWNWARDS HEAVY COMPRESSED ARROWaLEFTWARDS HEAVY ARROWaUPWARDS HEAVY ARROW",
     "aRIGHTWARDS HEAVY ARROWaDOWNWARDS HEAVY ARROW"]),
   (0x1f850, [
     "aLEFTWARDS SANS-SERIF ARROWaUPWARDS SANS-SERIF ARROWaRIGHTWARDS SANS-SERIF ARROW",
     "aDOWNWARDS SANS-SERIF ARROWaNORTH WEST SANS-SERIF ARROWgEAST SANS-SERIF ARROW",
     "aSOUTH EAST SANS-SERIF ARROWgWEST SANS-SERIF ARROWaLEFT RIGHT SANS-SERIF ARROW",
     "aUP DOWN SANS-SERIF ARROW"]),
   (0x1f860, [
     "aWIDE-HEADED LEFTWARDS LIGHT BARB ARROWmUPWARDS LIGHT BARB ARROW",
     "mRIGHTWARDS LIGHT BARB ARROWmDOWNWARDS LIGHT BARB ARROWmNORTH WEST LIGHT BARB ARROW",
     "sEAST LIGHT BARB ARROWmSOUTH EAST LIGHT BARB ARROWsWEST LIGHT BARB ARROW",
     "mLEFTWARDS BARB ARROWmUPWARDS BARB ARROWmRIGHTWARDS BARB ARROWmDOWNWARDS BARB ARROW",
     "mNORTH WEST BARB ARROWsEAST BARB ARROWmSOUTH EAST BARB ARROWsWEST BARB ARROW",
     "mLEFTWARDS MEDIUM BARB ARROWmUPWARDS MEDIUM BARB ARROWmRIGHTWARDS MEDIUM BARB ARROW",
     "mDOWNWARDS MEDIUM BARB ARROWmNORTH WEST MEDIUM BARB ARROWsEAST MEDIUM BARB ARROW",
     "mSOUTH EAST MEDIUM BARB ARROWsWEST MEDIUM BARB ARROWmLEFTWARDS HEAVY BARB ARROW",
     "mUPWARDS HEAVY BARB ARROWmRIGHTWARDS HEAVY BARB ARROWmDOWNWARDS HEAVY BARB ARROW",
     "mNORTH WEST HEAVY BARB ARROWsEAST HEAVY BARB ARROWmSOUTH EAST HEAVY BARB ARROW",
     "sWEST HEAVY BARB ARROWmLEFTWARDS VERY HEAVY BARB ARROWmUPWARDS VERY HEAVY BARB ARROW",
     "mRIGHTWARDS VERY HEAVY BARB ARROWmDOWNWARDS VERY HEAVY BARB ARROW",
     "mNORTH WEST VERY HEAVY BARB ARROWsEAST VERY HEAVY BARB ARROW",
     "mSOUTH EAST VERY HEAVY BARB ARROWsWEST VERY HEAVY BARB ARROW"]),
   (0x1f890, [
     "aLEFTWARDS TRIANGLE ARROWHEADaUPWARDS TRIANGLE ARROWHEADaRIGHTWARDS TRIANGLE ARROWHEAD",
     "aDOWNWARDS TRIANGLE ARROWHEADaLEFTWARDS WHITE ARROW WITHIN TRIANGLE ARROWHEAD",
     "aUPWARDS WHITE ARROW WITHIN TRIANGLE ARROWHEAD",
     "aRIGHTWARDS WHITE ARROW WITHIN TRIANGLE ARROWHEAD",
     "aDOWNWARDS WHITE ARROW WITHIN TRIANGLE ARROWHEADaLEFTWARDS ARROW WITH NOTCHED TAIL",
     "aUPWARDS ARROW WITH NOTCHED TAILaRIGHTWARDS ARROW WITH NOTCHED TAIL",
     "aDOWNWARDS ARROW WITH NOTCHED TAILaHEAVY ARROW SHAFT WIDTH ONEyTWO THIRDSyONE HALF%THIRD",
     "aLEFTWARDS BOTTOM-SHADED WHITE ARROWaRIGHTWARDS BOTTOM SHADED WHITE ARROW",
     "aLEFTWARDS TOP SHADED WHITE ARROWaRIGHTWARDS TOP SHADED WHITE ARROW",
     "aLEFTWARDS LEFT-SHADED WHITE ARROWaRIGHTWARDS RIGHT-SHADED WHITE ARROW",
     "aLEFTWARDS RIGHT-SHADED WHITE ARROWaRIGHTWARDS LEFT-SHADED WHITE ARROW",
     "aLEFTWARDS BACK-TILTED SHADOWED WHITE ARROWaRIGHTWARDS BACK-TILTED SHADOWED WHITE ARROW",
     "aLEFTWARDS FRONT-TILTED SHADOWED WHITE ARROWaRIGHTWARDS FRONT-TILTED SHADOWED WHITE ARROW",
     "aWHITE ARROW SHAFT WIDTH ONEyTWO THIRDS"]),
   (0x1f8b0, ["aARROW POINTING UPWARDS THEN NORTH WESTpRIGHTWARDS THEN CURVING SOUTH WEST"]),
   (0x1f900, [
     "aCIRCLED CROSS FORMEE WITH FOUR DOTS!TWO DOTSuaLEFT HALF CIRCLE WITH FOUR DOTSwTHREE DOTS",
     "xWO DOTSwDOTqaDOWNWARD FACING HOOKqNOTCHED HOOKqHOOK WITH DOTqNOTCHED HOOK WITH DOT",
     "aPINCHED FINGERSaWHITE HEARTaBROWN HEARTaPINCHING HANDaZIPPER-MOUTH FACEaMONEY-MOUTH FACE",
     "aFACE WITH THERMOMETERaNERD FACEaTHINKING FACEaFACE WITH HEAD-BANDAGEaROBOT FACE",
     "aHUGGING FACEaSIGN OF THE HORNSaCALL ME HANDaRAISED BACK OF HANDaLEFT-FACING FIST",
     "aRIGHT-FACING FISTaHANDSHAKEe WITH INDEX AND MIDDLE FINGERS CROSSEDaI LOVE YOU HAND SIGN",
     "aFACE WITH COWBOY HATaCLOWN FACEaNAUSEATED FACEaROLLING ON THE FLOOR LAUGHING",
     "aDROOLING FACEaLYING FACEaFACE PALMaSNEEZING FACEaFACE WITH ONE EYEBROW RAISED",
     "aGRINNING FACE WITH STAR EYEStONE LARGE AND ONE SMALL EYE",
     "aFACE WITH FINGER COVERING CLOSED LIPSaSERIOUS FACE WITH SYMBOLS COVERING MOUTH",
     "bMILING FACE WITH SMILING EYES AND HAND COVERING MOUTHaFACE WITH OPEN MOUTH VOMITING",
     "aSHOCKED FACE WITH EXPLODING HEADaPREGNANT WOMANaBREAST-FEEDINGaPALMS UP TOGETHERaSELFIE",
     "aPRINCEaMAN IN TUXEDObOTHER CHRISTMASaSHRUGaPERSON DOING CARTWHEELaJUGGLINGaFENCER",
     "aMODERN PENTATHLONaWRESTLERSbATER POLOaHANDBALLaDIVING MASKaWILTED FLOWER",
     "aDRUM WITH DRUMSTICKSaCLINKING GLASSESaTUMBLER GLASSaSPOONaGOAL NETaRIFLE",
     "aFIRST PLACE MEDALaSECOND PLACE MEDALaTHIRD PLACE MEDALaBOXING GLOVEaMARTIAL ARTS UNIFORM",
     "aCURLING STONEaLACROSSE STICK AND BALLaSOFTBALLaFLYING DISCaCROISSANTaAVOCADOaCUCUMBER",
     "aBACONaPOTATOaCARROTaBAGUETTE BREADaGREEN SALADaSHALLOW PAN OF FOODbTUFFED FLATBREADaEGG",
     "aGLASS OF MILKaPEANUTSaKIWIFRUITaPANCAKESaDUMPLINGaFORTUNE COOKIEaTAKEOUT BOXaCHOPSTICKS",
     "aBOWL WITH SPOONaCUP WITH STRAWbOCONUTaBROCCOLIaPIEbRETZELaCUT OF MEATaSANDWICH",
     "aCANNED FOODaLEAFY GREENaMANGObOON CAKEaBAGEL",
     "aSMILING FACE WITH SMILING EYES AND THREE HEARTSaYAWNING FACEaSMILING FACE WITH TEAR",
     "aFACE WITH PARTY HORN AND PARTY HATkUNEVEN EYES AND WAVY MOUTHaOVERHEATED FACE",
     "aFREEZING FACEaNINJAaDISGUISED FACEaFACE HOLDING BACK TEARSfWITH PLEADING EYESaSARI",
     "aLAB COATaGOGGLESaHIKING BOOTaFLAT SHOEaCRABaLION FACEaSCORPIONaTURKEYaUNICORN FACEaEAGLE",
     "aDUCKaBATaSHARKaOWLaFOX FACEaBUTTERFLYaDEERaGORILLAaLIZARDaRHINOCEROSaSHRIMPbQUID",
     "aGIRAFFE FACEaZEBRA FACEaHEDGEHOGaSAUROPODaT-REXaCRICKETaKANGAROOaLLAMAaPEACOCK",
     "aHIPPOPOTAMUSaPARROTaRACCOONaLOBSTERaMOSQUITObICROBEaBADGERaSWANaMAMMOTHaDODOaSLOTHaOTTER",
     "bRANGUTANaSKUNKaFLAMINGOaOYSTERaBEAVERbISONaSEALaGUIDE DOGaPROBING CANE",
     "aEMOJI COMPONENT RED HAIRqCURLY HAIRqBALDqWHITE HAIRaBONEaLEGaFOOTaTOOTHaSUPERHEROfVILLAIN",
     "bAFETY VESTaEAR WITH HEARING AIDaMOTORIZED WHEELCHAIRbANUAL WHEELCHAIRbECHANICAL ARMlLEG",
     "aCHEESE WEDGEbUPCAKEaSALT SHAKERaBEVERAGE BOXaGARLICaONIONaFALAFELaWAFFLEaBUTTER",
     "aMATE DRINKaICE CUBEaBUBBLE TEAaTROLLaSTANDING PERSONaKNEELING PERSONaDEAF PERSON",
     "aFACE WITH MONOCLEaADULTaCHILDaOLDER ADULTaBEARDED PERSONaPERSON WITH HEADSCARF",
     "hIN STEAMY ROOMhCLIMBINGhIN LOTUS POSITIONaMAGEaFAIRYaVAMPIREaMERPERSONaELFaGENIEaZOMBIE",
     "aBRAINaORANGE HEARTaBILLED CAPaSCARFaGLOVESaCOATaSOCKSaRED GIFT ENVELOPEaFIRECRACKER",
     "aJIGSAW PUZZLE PIECEaTEST TUBEaPETRI DISHaDNA DOUBLE HELIXaCOMPASSaABACUS",
     "aFIRE EXTINGUISHERaTOOLBOXaBRICKaMAGNETaLUGGAGEbOTION BOTTLEaSPOOL OF THREADaBALL OF YARN",
     "aSAFETY PINaTEDDY BEARaBROOMbASKETaROLL OF PAPERaBAR OF SOAPaSPONGEaRECEIPTaNAZAR AMULET",
     "bEUTRAL CHESS KINGoQUEENoROOKoBISHOPoKNIGHToPAWN",
     "aWHITE CHESS KNIGHT ROTATED FORTY-FIVE DEGREES",
     "aBLACK CHESS KNIGHT ROTATED FORTY-FIVE DEGREES",
     "aNEUTRAL CHESS KNIGHT ROTATED FORTY-FIVE DEGREESaWHITE CHESS KING ROTATED NINETY DEGREES",
     "mQUEEN ROTATED NINETY DEGREESmROOK ROTATED NINETY DEGREESmBISHOP ROTATED NINETY DEGREES",
     "mKNIGHT ROTATED NINETY DEGREESmPAWN ROTATED NINETY DEGREES",
     "aBLACK CHESS KING ROTATED NINETY DEGREESmQUEEN ROTATED NINETY DEGREES",
     "mROOK ROTATED NINETY DEGREESmBISHOP ROTATED NINETY DEGREESmKNIGHT ROTATED NINETY DEGREES",
     "mPAWN ROTATED NINETY DEGREESaNEUTRAL CHESS KING ROTATED NINETY DEGREES",
     "oQUEEN ROTATED NINETY DEGREESoROOK ROTATED NINETY DEGREESoBISHOP ROTATED NINETY DEGREES",
     "oKNIGHT ROTATED NINETY DEGREESoPAWN ROTATED NINETY DEGREES",
     "aWHITE CHESS KNIGHT ROTATED ONE HUNDRED THIRTY-FIVE DEGREES",
     "aBLACK CHESS KNIGHT ROTATED ONE HUNDRED THIRTY-FIVE DEGREES",
     "aNEUTRAL CHESS KNIGHT ROTATED ONE HUNDRED THIRTY-FIVE DEGREESaWHITE CHESS TURNED KING",
     "tQUEENtROOKtBISHOPtKNIGHTtPAWNaBLACK CHESS TURNED KINGtQUEENtROOKtBISHOPtKNIGHTtPAWN",
     "aNEUTRAL CHESS TURNED KINGvQUEENvROOKvBISHOPvKNIGHTvPAWN",
     "aWHITE CHESS KNIGHT ROTATED TWO HUNDRED TWENTY-FIVE DEGREES",
     "aBLACK CHESS KNIGHT ROTATED TWO HUNDRED TWENTY-FIVE DEGREES",
     "aNEUTRAL CHESS KNIGHT ROTATED TWO HUNDRED TWENTY-FIVE DEGREES",
     "aWHITE CHESS KING ROTATED TWO HUNDRED SEVENTY DEGREES",
     "mQUEEN ROTATED TWO HUNDRED SEVENTY DEGREESmROOK ROTATED TWO HUNDRED SEVENTY DEGREES",
     "mBISHOP ROTATED TWO HUNDRED SEVENTY DEGREESmKNIGHT ROTATED TWO HUNDRED SEVENTY DEGREES",
     "mPAWN ROTATED TWO HUNDRED SEVENTY DEGREES",
     "aBLACK CHESS KING ROTATED TWO HUNDRED SEVENTY DEGREES",
     "mQUEEN ROTATED TWO HUNDRED SEVENTY DEGREESmROOK ROTATED TWO HUNDRED SEVENTY DEGREES",
     "mBISHOP ROTATED TWO HUNDRED SEVENTY DEGREESmKNIGHT ROTATED TWO HUNDRED SEVENTY DEGREES",
     "mPAWN ROTATED TWO HUNDRED SEVENTY DEGREES",
     "aNEUTRAL CHESS KING ROTATED TWO HUNDRED SEVENTY DEGREES",
     "oQUEEN ROTATED TWO HUNDRED SEVENTY DEGREESoROOK ROTATED TWO HUNDRED SEVENTY DEGREES",
     "oBISHOP ROTATED TWO HUNDRED SEVENTY DEGREESoKNIGHT ROTATED TWO HUNDRED SEVENTY DEGREES",
     "oPAWN ROTATED TWO HUNDRED SEVENTY DEGREES",
     "aWHITE CHESS KNIGHT ROTATED THREE HUNDRED FIFTEEN DEGREES",
     "aBLACK CHESS KNIGHT ROTATED THREE HUNDRED FIFTEEN DEGREES",
     "aNEUTRAL CHESS KNIGHT ROTATED THREE HUNDRED FIFTEEN DEGREESaWHITE CHESS EQUIHOPPER",
     "aBLACK CHESS EQUIHOPPERaNEUTRAL CHESS EQUIHOPPER",
     "aWHITE CHESS EQUIHOPPER ROTATED NINETY DEGREES",
     "aBLACK CHESS EQUIHOPPER ROTATED NINETY DEGREES",
     "aNEUTRAL CHESS EQUIHOPPER ROTATED NINETY DEGREESaWHITE CHESS KNIGHT-QUEENtROOKtBISHOP",
     "aBLACK CHESS KNIGHT-QUEENtROOKtBISHOP"]),
   (0x1fa60, [
     "aXIANGQI RED GENERALmMANDARINmELEPHANTmHORSEmCHARIOTnANNONmSOLDIERiBLACK GENERALoMANDARIN",
     "oELEPHANToHORSEoCHARIOTpANNONoSOLDIER"]),
   (0x1fa70, ["aBALLET SHOESaONE-PIECE SWIMSUITaBRIEFSaSHORTSaTHONG SANDAL"]),
   (0x1fa78, ["aDROP OF BLOODaADHESIVE BANDAGEaSTETHOSCOPEaX-RAYaCRUTCH"]),
   (0x1fa80, ["aYO-YOaKITEaPARACHUTEaBOOMERANGaMAGIC WANDaPINATAaNESTING DOLLS"]),
   (0x1fa90, [
     "aRINGED PLANETaCHAIRaRAZORaAXEaDIYA LAMPaBANJOaMILITARY HELMETaACCORDIONaLONG DRUMaCOIN",
     "bARPENTRY SAWaSCREWDRIVERaLADDERaHOOKaMIRRORaWINDOWaPLUNGERaSEWING NEEDLEaKNOTaBUCKET",
     "aMOUSE TRAPaTOOTHBRUSHaHEADSTONEaPLACARDaROCKaMIRROR BALLaIDENTIFICATION CARDaLOW BATTERY",
     "aHAMSA"]),
   (0x1fab0, [
     "aFLYaWORMaBEETLEaCOCKROACHaPOTTED PLANTaWOODaFEATHERaLOTUSaCORALaEMPTY NESTaNEST WITH EGGS"]),
   (0x1fac0, ["aANATOMICAL HEARTaLUNGSaPEOPLE HUGGINGbREGNANT MANjPERSONbERSON WITH CROWN"]),
   (0x1fad0, [
     "aBLUEBERRIESbELL PEPPERaOLIVEaFLATBREADaTAMALEaFONDUEaTEAPOTaPOURING LIQUIDaBEANSaJAR"]),
   (0x1fae0, [
     "aMELTING FACEaSALUTING FACEaFACE WITH OPEN EYES AND HAND OVER MOUTHkPEEKING EYE",
     "kDIAGONAL MOUTHaDOTTED LINE FACEaBITING LIPbUBBLES"]),
   (0x1faf0, [
     "aHAND WITH INDEX FINGER AND THUMB CROSSEDaRIGHTWARDS HANDaLEFTWARDS HANDaPALM DOWN HAND",
     "fUP HANDaINDEX POINTING AT THE VIEWERaHEART HANDS"]),
   (0x1fb00, [
     "aBLOCK SEXTANT-1o2o12o3o13o23o123o4o14o24o124o34o134o234o1234o5o15o25o125o35o235o1235o45",
     "o145o245o1245o345o1345o2345o12345o6o16o26o126o36o136o236o1236o46o146p246o346o1346o2346",
     "o12346o56o156o256o1256o356o1356o2356o12356o456o1456o2456o12456o3456o13456o23456",
     "aLOWER LEFT BLOCK DIAGONAL LOWER MIDDLE LEFT TO LOWER CENTRE~O LOWER RIGHT",
     "!UPPER MIDDLE LEFT TO LOWER CENTRE~O LOWER RIGHT,LEFT TO LOWER CENTRE",
     "gRIGHT BLOCK DIAGONAL UPPER MIDDLE LEFT TO UPPER CENTRE~TO UPPER RIGHT",
     "$LOWER MIDDLE LEFT TO UPPER CENTRE~TO UPPER RIGHT.LEFT TO UPPER CENTRE",
     ".MIDDLE LEFT TO UPPER MIDDLE RIGHT.CENTRE TO LOWER MIDDLE RIGHT.LEFT TO LOWER MIDDLE RIGHT",
     ".CENTRE TO UPPER MIDDLE RIGHT.LEFT TO UPPER MIDDLE RIGHT.CENTRE TO UPPER RIGHT",
     "gLEFT BLOCK DIAGONAL UPPER CENTRE TO UPPER MIDDLE RIGHT,LEFT TO UPPER MIDDLE RIGHT",
     ",CENTRE TO LOWER MIDDLE RIGHT,LEFT TO LOWER MIDDLE RIGHT,CENTRE TO LOWER RIGHT",
     ",MIDDLE LEFT TO LOWER MIDDLE RIGHT",
     "aUPPER RIGHT BLOCK DIAGONAL LOWER MIDDLE LEFT TO LOWER CENTRE~TO LOWER RIGHT",
     "$UPPER MIDDLE LEFT TO LOWER CENTRE~TO LOWER RIGHT.LEFT TO LOWER CENTRE",
     "gLEFT BLOCK DIAGONAL UPPER MIDDLE LEFT TO UPPER CENTRE~O UPPER RIGHT",
     "!LOWER MIDDLE LEFT TO UPPER CENTRE~O UPPER RIGHT,LEFT TO UPPER CENTRE",
     ",MIDDLE LEFT TO UPPER MIDDLE RIGHT,CENTRE TO LOWER MIDDLE RIGHT,LEFT TO LOWER MIDDLE RIGHT",
     ",CENTRE TO UPPER MIDDLE RIGHT,LEFT TO UPPER MIDDLE RIGHT,CENTRE TO UPPER RIGHT",
     "gRIGHT BLOCK DIAGONAL UPPER CENTRE TO UPPER MIDDLE RIGHT.LEFT TO UPPER MIDDLE RIGHT",
     ".CENTRE TO LOWER MIDDLE RIGHT.LEFT TO LOWER MIDDLE RIGHT.CENTRE TO LOWER RIGHT",
     ".MIDDLE LEFT TO LOWER MIDDLE RIGHTgAND RIGHT AND LOWER TRIANGULAR THREE QUARTERS BLOCK",
     "aLEFT AND LOWER AND RIGHT TRIANGULAR THREE QUARTERS BLOCK",
     "aUPPER AND LEFT AND LOWER TRIANGULAR THREE QUARTERS BLOCK",
     "aLEFT AND UPPER AND RIGHT TRIANGULAR THREE QUARTERS BLOCKfTRIANGULAR ONE QUARTER BLOCK",
     "aUPPER TRIANGULAR ONE QUARTER BLOCKaRIGHT TRIANGULAR ONE QUARTER BLOCK",
     "aLOWER TRIANGULAR ONE QUARTER BLOCKaVERTICAL ONE EIGHTH BLOCK-2!3!4!5!6!7",
     "aHORIZONTAL ONE EIGHTH BLOCK-2%3%4%5%6%7aLEFT AND LOWER ONE EIGHTH BLOCK",
     "jUPPER ONE EIGHTH BLOCKaRIGHT AND UPPER ONE EIGHTH BLOCKkLOWER ONE EIGHTH BLOCK",
     "aUPPER AND LOWER ONE EIGHTH BLOCKaHORIZONTAL ONE EIGHTH BLOCK-1358aUPPER ONE QUARTER BLOCK",
     "gTHREE EIGHTHS BLOCKgFIVE EIGHTHS BLOCKgTHREE QUARTERS BLOCKgSEVEN EIGHTHS BLOCK",
     "aRIGHT ONE QUARTER BLOCKgTHREE EIGHTHS BLOCKgFIVE EIGHTHS BLOCKgTHREE QUARTERS BLOCK",
     "gSEVEN EIGHTHS BLOCKaLEFT HALF MEDIUM SHADEaRIGHT HALF MEDIUM SHADE",
     "aUPPER HALF MEDIUM SHADEaLOWER HALF MEDIUM SHADEaINVERSE MEDIUM SHADE",
     "aUPPER HALF BLOCK AND LOWER HALF INVERSE MEDIUM SHADE",
     "lINVERSE MEDIUM SHADE AND LOWER HALF BLOCK"]),
   (0x1fb94, [
     "aLEFT HALF INVERSE MEDIUM SHADE AND RIGHT HALF BLOCKaCHECKER BOARD FILL",
     "aINVERSE CHECKER BOARD FILLaHEAVY HORIZONTAL FILLaUPPER LEFT TO LOWER RIGHT FILL",
     "gRIGHT TO LOWER LEFT FILLgAND LOWER TRIANGULAR HALF BLOCK",
     "aLEFT AND RIGHT TRIANGULAR HALF BLOCKaUPPER LEFT TRIANGULAR MEDIUM SHADE",
     "gRIGHT TRIANGULAR MEDIUM SHADEaLOWER RIGHT TRIANGULAR MEDIUM SHADE",
     "gLEFT TRIANGULAR MEDIUM SHADEaBOX DRAWINGS LIGHT DIAGONAL UPPER CENTRE TO MIDDLE LEFT",
     "~IDDLE RIGHT%MIDDLE LEFT TO LOWER CENTRE:RIGHT TO LOWER CENTRE",
     "%UPPER CENTRE TO MIDDLE LEFT TO LOWER CENTRE~IDDLE RIGHT TO LOWER CENTRE",
     "%MIDDLE LEFT TO LOWER CENTRE TO MIDDLE RIGHT_UPPER CENTRE TO MIDDLE RIGHT",
     "%UPPER CENTRE TO MIDDLE LEFT AND MIDDLE RIGHT TO LOWER CENTRE",
     "~IDDLE RIGHT AND MIDDLE LEFT TO LOWER CENTRE~IDDLE RIGHT TO LOWER CENTRE TO MIDDLE LEFT",
     "~IDDLE LEFT TO LOWER CENTRE TO MIDDLE RIGHT",
     "%MIDDLE LEFT TO UPPER CENTRE TO MIDDLE RIGHT TO LOWER CENTRE",
     ":RIGHT TO UPPER CENTRE TO MIDDLE LEFT TO LOWER CENTRE%DIAMOND",
     "tHORIZONTAL WITH VERTICAL STROKEaARROWHEAD-SHAPED POINTERaINVERSE CHECK MARK",
     "aLEFT HALF RUNNING MANaRIGHT HALF RUNNING MANaINVERSE DOWNWARDS ARROW WITH TIP LEFTWARDS",
     "aLEFTWARDS ARROW AND UPPER AND LOWER ONE EIGHTH BLOCK",
     "aRIGHTWARDS ARROW AND UPPER AND LOWER ONE EIGHTH BLOCK",
     "aDOWNWARDS ARROW AND RIGHT ONE EIGHTH BLOCKaUPWARDS ARROW AND RIGHT ONE EIGHTH BLOCK",
     "aLEFT HALF FOLDERaRIGHT HALF FOLDERaVOIDED GREEK CROSSaRIGHT OPEN SQUARED DOT",
     "aNEGATIVE DIAGONAL CROSSsMIDDLE RIGHT TO LOWER CENTREsDIAMOND",
     "aWHITE HEAVY SALTIRE WITH ROUNDED CORNERSaLEFT THIRD WHITE RIGHT POINTING INDEX",
     "aMIDDLE THIRD WHITE RIGHT POINTING INDEXaRIGHT THIRD WHITE RIGHT POINTING INDEX",
     "aNEGATIVE SQUARED QUESTION MARKaSTICK FIGUREm WITH ARMS RAISEDnLEANING LEFTvRIGHT",
     "nWITH DRESSaWHITE UP-POINTING CHEVRON"]),
   (0x1fbf0, ["aSEGMENTED DIGIT ZEROqONEqTWOrHREEqFOURrIVEqSIXrEVENqEIGHTqNINE"]),
   (0xe0001, ["aLANGUAGE TAG"]),
   (0xe0020, [
     "aTAG SPACEeEXCLAMATION MARKeQUOTATION MARKeNUMBER SIGNeDOLLAR SIGNePERCENT SIGNeAMPERSAND",
     "fPOSTROPHEeLEFT PARENTHESISeRIGHT PARENTHESISeASTERISKePLUS SIGNeCOMMAeHYPHEN-MINUS",
     "eFULL STOPeSOLIDUSeDIGIT ZEROkONEkTWOlHREEkFOURlIVEkSIXlEVENkEIGHTkNINEeCOLONeSEMICOLON",
     "eLESS-THAN SIGNeEQUALS SIGNeGREATER-THAN SIGNeQUESTION MARKeCOMMERCIAL AT",
     "eLATIN CAPITAL LETTER AzBzCzDzEzFzGzHzIzJzKzLzMzNzOzPzQzRzSzTzUzVzWzXzYzZ",
     "fEFT SQUARE BRACKETeREVERSE SOLIDUSfIGHT SQUARE BRACKETeCIRCUMFLEX ACCENTeLOW LINE",
     "eGRAVE ACCENTeLATIN SMALL LETTER AxBxCxDxExFxGxHxIxJxKxLxMxNxOxPxQxRxSxTxUxVxWxXxYxZ",
     "fEFT CURLY BRACKETeVERTICAL LINEeRIGHT CURLY BRACKETeTILDEaCANCEL TAG"]),
   (0xe0100, [
     "aVARIATION SELECTOR-17u8u9t20u1u2u3u4u5u6u7u8u9t30u1u2u3u4u5u6u7u8u9t40u1u2u3u4u5u6u7u8u9",
     "t50u1u2u3u4u5u6u7u8u9t60u1u2u3u4u5u6u7u8u9t70u1u2u3u4u5u6u7u8u9t80u1u2u3u4u5u6u7u8u9t90u1",
     "u2u3u4u5u6u7u8u9t100v1v2v3v4v5v6v7v8v9u10v1v2v3v4v5v6v7v8v9u20v1v2v3v4v5v6v7v8v9u30v1v2v3",
     "v4v5v6v7v8v9u40v1v2v3v4v5v6v7v8v9u50v1v2v3v4v5v6v7v8v9u60v1v2v3v4v5v6v7v8v9u70v1v2v3v4v5v6",
     "v7v8v9u80v1v2v3v4v5v6v7v8v9u90v1v2v3v4v5v6v7v8v9t200v1v2v3v4v5v6v7v8v9u10v1v2v3v4v5v6v7v8",
     "v9u20v1v2v3v4v5v6v7v8v9u30v1v2v3v4v5v6v7v8v9u40v1v2v3v4v5v6v7v8v9u50v1v2v3v4v5v6"])]

end TokenTemplate.Unicode
