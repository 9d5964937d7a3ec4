import TokenTemplate.Unicode.Name.Run

/-!
# Names of notational systems

The names that version 14 of the standard gives to characters:
musical and mathematical notation, and recent scripts.
-/

namespace TokenTemplate.Unicode

/-- Runs of characters with their names. -/
def notationalNames : List NameRun :=
  [(0x1d000, [
     "aBYZANTINE MUSICAL SYMBOL PSILIzDASEIAzPERISPOMENIzOXEIA EKFONITIKON+DIPLI",
     "zVAREIA EKFONITIKON,DIPLIzKATHISTIzSYRMATIKIzPARAKLITIKIzYPOKRISIS/ DIPLIzKREMASTI",
     "zAPESO EKFONITIKONzEXO EKFONITIKONzTELEIAzKENTIMATAzAPOSTROFOS: DIPLIzSYNEVMAzTHITA",
     "zOLIGON ARCHAIONzGORGON ARCHAIONzPSILONzCHAMILONzVATHYzISON ARCHAIONzKENTIMA ARCHAION",
     ",TA ARCHAIONzSAXIMATAzPARICHONzSTAVROS APODEXIAzOXEIAI ARCHAIONzVAREIAI ARCHAION",
     "zAPODERMA ARCHAION%THEMAzKLASMAzREVMAzPIASMA ARCHAIONzTINAGMAzANATRICHISMAzSEISMA",
     "!YNAGMA ARCHAION.META STAVROUzOYRANISMA ARCHAIONzTHEMAzLEMOIzDYOzTRIA!ESSERAzKRATIMATA",
     "zAPESO EXO NEOzFTHORA ARCHAIONzIMIFTHORAzTROMIKON ARCHAIONzKATAVA TROMIKONzPELASTON",
     "!SIFISTONzKONTEVMAzCHOREVMA ARCHAIONzRAPISMAzPARAKALESMA ARCHAION*LITIKI ARCHAIONzICHADIN",
     "zNANAzPETASMAzKONTEVMA ALLOzTROMIKON ALLOzSTRAGGISMATAzGRONTHISMATAzISON NEOzOLIGON NEO",
     "!XEIA NEOzPETASTIzKOUFISMAzPETASTOKOUFISMAzKRATIMOKOUFISMAzPELASTON NEOzKENTIMATA NEO ANO",
     ", NEO ANOzYPSILIzAPOSTROFOS NEO/I SYNDESMOS NEOzYPORROIzKRATIMOYPORROONzELAFRONzCHAMILI",
     "zMIKRON ISONzVAREIA NEOzPIASMA NEO!SIFISTON NEOzOMALONzANTIKENOMAzLYGISMAzPARAKLITIKI NEO",
     "*ALESMA NEOzETERON PARAKALESMAzKYLISMAzANTIKENOKYLISMAzTROMIKON NEOzEKSTREPTONzSYNAGMA NEO",
     "$RMAzCHOREVMA NEOzEPEGERMAzSEISMA NEOzXIRON KLASMAzTROMIKOPSIFISTONzPSIFISTOLYGISMA",
     "zTROMIKOLYGISMA,PARAKALESMAzPSIFISTOPARAKALESMAzTROMIKOSYNAGMAzPSIFISTOSYNAGMA",
     "zGORGOSYNTHETONzARGOSYNTHETONzETERON ARGOSYNTHETONzOYRANISMA NEOzTHEMATISMOS ESO=XO",
     "* APLOUN%S KAI APOTHESzKATAVASMAzENDOFONONzYFEN KATO*ANOzSTAVROSzKLASMA ANOzDIPLI ARCHAION",
     "zKRATIMA ARCHAION/LLO.NEOzAPODERMA NEO$LIzDIPLIzTRIPLI!ETRAPLIzKORONISzLEIMMA ENOS CHRONOU",
     ",DYO CHRONON,TRION CHRONON.ESSARON CHRONON,IMISEOS CHRONOUzGORGON NEO ANO",
     ",PARESTIGMENON ARISTERA~ DEXIAzDIGORGON. PARESTIGMENON ARISTERA KATO~ON ARISTERA ANO",
     "~ON DEXIAzTRIGORGONzARGONzIMIDIARGONzDIARGONzAGOGI POLI ARGI+ARGOTERI/I+METRIA.SI+GORGI",
     ":OTERI+POLI GORGIzMARTYRIA PROTOS ICHOS/ALLI PROTOS ICHOS/DEYTEROS ICHOS",
     "/ALLI DEYTEROS ICHOS/TRITOS ICHOS<FONIAS:ETARTOS ICHOS_LEGETOS ICHOS/LEGETOS ICHOS",
     "/PLAGIOS ICHOSzISAKIA TELOUS ICHIMATOSzAPOSTROFOI TELOUS ICHIMATOSzFANEROSIS TETRAFONIAS",
     ":MONOFONIAS:DIFONIASzMARTYRIA VARYS ICHOS/PROTOVARYS ICHOS:LAGIOS TETARTOS ICHOS",
     "zGORTHMIKON N APLOUN=DIPLOUNzENARXIS KAI FTHORA VOUzIMIFONON&THORON",
     "zFTHORA ARCHAION DEYTEROU ICHOU,DIATONIKI PA^NANA,NAOS ICHOS,DIATONIKI DI",
     ",SKLIRON DIATONON DI,DIATONIKI KE^ZO^NI KATO~ANO,MALAKON CHROMA DIFONIAS~A MONOFONIAS",
     "!HTORA SKLIRON CHROMA VASIS!THORA SKLIRON CHROMA SYNAFI,NENANOzCHROA ZYGOS+KLITON+SPATHI",
     "zFTHORA I YFESIS TETARTIMORION,ENARMONIOS ANTIFONIAzYFESIS TRITIMORIONzDIESIS TRITIMORION",
     ".ETARTIMORION,APLI DYO DODEKATA,MONOGRAMMOS TESSERA DODEKATA,DIGRAMMOS EX DODEKATA",
     ",TRIGRAMMOS OKTO DODEKATAzYFESIS APLI DYO DODEKATA,MONOGRAMMOS TESSERA DODEKATA",
     ",DIGRAMMOS EX DODEKATA,TRIGRAMMOS OKTO DODEKATAzGENIKI DIESIS,YFESISzDIASTOLI APLI MIKRI",
     "?EGALI/DIPLI/THESEOSzSIMANSIS THESEOS@ DISIMOU^TRISIMOU_ETRASIMOU/ARSEOS? DISIMOU@TRISIMOU",
     "^ETRASIMOUzDIGRAMMA GG$FTOGGOS OUzSTIGMAzARKTIKO PA.VOU.GA.DI.KE.ZO.NIzKENTIMATA NEO MESO",
     ", NEO MESO,TA NEO KATO, NEO KATO!LASMA KATOzGORGON NEO KATO"]),
   (0x1d100, [
     "aMUSICAL SYMBOL SINGLE BARLINEpDOUBLE BARLINEpFINAL BARLINEpREVERSE FINAL BARLINE",
     "pDASHED BARLINEpSHORT BARLINEpLEFT REPEAT SIGNpRIGHT REPEAT SIGNqEPEAT DOTSpDAL SEGNO",
     "r CAPOpSEGNOpCODApREPEATED FIGURE-1+2+3pFERMATAw BELOWpBREATH MARKpCAESURApBRACEtKET",
     "pONE-LINE STAFFpTWO-LINE STAFFqHREE-LINE STAFFpFOUR-LINE STAFFqIVE-LINE STAFF",
     "pSIX-LINE STAFFtSTRING FRETBOARDpFOUR-STRING FRETBOARDpG CLEFv OTTAVA ALTA&BASSApC CLEF",
     "pF CLEFv OTTAVA ALTA&BASSApDRUM CLEF-1z2"]),
   (0x1d129, [
     "aMUSICAL SYMBOL MULTIPLE MEASURE RESTpDOUBLE SHARPwFLATpFLAT UPuDOWNpNATURAL UPxDOWN",
     "pSHARP UPvDOWNpQUARTER TONE SHARP%FLATpCOMMON TIMEqUT TIMEpOTTAVA ALTAwBASSA",
     "pQUINDICESIMA ALTA%BASSApMULTI RESTpWHOLE RESTpHALF RESTpQUARTER RESTpEIGHTH REST",
     "pSIXTEENTH RESTpTHIRTY-SECOND RESTpSIXTY-FOURTH RESTpONE HUNDRED TWENTY-EIGHTH REST",
     "pX NOTEHEADpPLUS NOTEHEADpCIRCLE X NOTEHEADpSQUARE NOTEHEAD WHITE+BLACK",
     "pTRIANGLE NOTEHEAD UP WHITE;BLACK.LEFT WHITE=BLACK.RIGHT WHITE>BLACK.DOWN WHITE=BLACK",
     ".UP RIGHT WHITE^BLACKpMOON NOTEHEAD WHITE&BLACKpTRIANGLE-ROUND NOTEHEAD DOWN WHITE|BLACK",
     "pPARENTHESIS NOTEHEADpVOID NOTEHEADpNOTEHEAD BLACKqULL NOTEHEADpCLUSTER NOTEHEAD WHITE",
     ",BLACKpBREVEpWHOLE NOTEpHALF NOTEpQUARTER NOTEpEIGHTH NOTEpSIXTEENTH NOTE",
     "pTHIRTY-SECOND NOTEpSIXTY-FOURTH NOTEpONE HUNDRED TWENTY-EIGHTH NOTEpCOMBINING STEM",
     "!PRECHGESANG STEMzTREMOLO-1.2.3pFINGERED TREMOLO-1,2,3pCOMBINING AUGMENTATION DOTzFLAG-1*2",
     "*3*4*5pBEGIN BEAMpEND BEAMpBEGIN TIEpEND TIEpBEGIN SLURpEND SLURpBEGIN PHRASEpEND PHRASE",
     "pCOMBINING ACCENTzSTACCATOzTENUTOzSTACCATISSIMOzMARCATO,-STACCATOzACCENT-STACCATOzLOURE",
     "pARPEGGIATO UP!DOWNpCOMBINING DOITzRIPzFLIPzSMEARzBENDzDOUBLE TONGUEzTRIPLE TONGUE",
     "pRINFORZANDOpSUBITOpZpPIANOpMEZZOpFORTEpCRESCENDOpDECRESCENDOpGRACE NOTE SLASH!NO SLASHpTR",
     "qURNpINVERTED TURNpTURN SLASHuUPpORNAMENT STROKE-1+2+3+4+5+6+7+8+9+10,1pHAUPTSTIMME",
     "pNEBENSTIMMEpEND OF STIMMEpDEGREE SLASHpCOMBINING DOWN BOWzUP BOWzHARMONICzSNAP PIZZICATO",
     "pPEDAL MARKvUP MARKpHALF PEDAL MARKpGLISSANDO UPzDOWNpWITH FINGERNAILSpDAMPt ALLpMAXIMA",
     "pLONGApBREVISpSEMIBREVIS WHITE!BLACKpMINIMAv BLACKpSEMIMINIMA WHITE!BLACKpFUSA WHITEuBLACK",
     "pLONGA PERFECTA RESTvIMPERFECTA RESTpBREVIS RESTpSEMIBREVIS RESTpMINIMA REST",
     "pSEMIMINIMA RESTpTEMPUS PERFECTUM CUM PROLATIONE PERFECTA~E IMPERFECTA",
     "~E PERFECTA DIMINUTION-1wIMPERFECTUM CUM PROLATIONE PERFECTA~ONE IMPERFECTA",
     "~ONE IMPERFECTA DIMINUTION-1~ONE IMPERFECTA DIMINUTION-2~ONE IMPERFECTA DIMINUTION-3pCROIX",
     "pGREGORIAN C CLEFzF CLEFpSQUARE BpVIRGApPODATUSpCLIVISpSCANDICUSpCLIMACUSpTORCULUS",
     "pPORRECTUSy FLEXUSpSCANDICUS FLEXUSpTORCULUS RESUPINUSpPES SUBPUNCTISpKIEVAN C CLEF",
     "wEND OF PIECEwFINAL NOTEwRECITATIVE MARKwWHOLE NOTEwHALF NOTEwQUARTER NOTE STEM DOWN?UP",
     "wEIGHTH NOTE STEM DOWN>UPwFLAT SIGNpSORIpKORON"]),
   (0x1d200, [
     "aGREEK VOCAL NOTATION SYMBOL-1%2%3%4%5%6%7%8%9%10&1&2&3&4&5&6&7&8&9%20&1&2&3&4%50&1&2&3&4",
     "gINSTRUMENTAL NOTATION SYMBOL-1:2:4:5:7:8:11;2;3;4;7;8;9:23;4;5;6;7;9:30;2;6;7;8;9:40;2;3",
     ";5;7;8;9:50;1;2;3;4aCOMBINING GREEK MUSICAL TRISEMEzETRASEMEyPENTASEME",
     "aGREEK MUSICAL LEIMMA"]),
   (0x1d2e0, [
     "aMAYAN NUMERAL ZEROoONEoTWOpHREEoFOURpIVEoSIXpEVENoEIGHToNINEoTENoELEVENoTWELVEpHIRTEEN",
     "oFOURTEENpIFTEENoSIXTEENpEVENTEENoEIGHTEENoNINETEEN"]),
   (0x1d300, [
     "aMONOGRAM FOR EARTHaDIGRAM FOR HEAVENLY EARTHmUMAN EARTHlEARTHLY HEAVENuUMANq",
     "aTETRAGRAM FOR CENTREoFULL CIRCLEoMIREDoBARRIERoKEEPING SMALLoCONTRARIETYoASCENT",
     "oOPPOSITIONoBRANCHING OUToDEFECTIVENESS OR DISTORTIONpIVERGENCEoYOUTHFULNESSoINCREASE",
     "oPENETRATIONoREACHoCONTACToHOLDING BACKoWAITINGoFOLLOWINGoADVANCEoRELEASEqSISTANCEoEASE",
     "oJOYoCONTENTIONoENDEAVOURoDUTIESoCHANGEoDECISIVENESSoBOLD RESOLUTIONoPACKINGoLEGION",
     "oCLOSENESSoKINSHIPoGATHERINGoSTRENGTHoPURITYoFULLNESSoRESIDENCEoLAW OR MODELoRESPONSE",
     "oGOING TO MEEToENCOUNTERSoSTOVEoGREATNESSoENLARGEMENToPATTERNoRITUALoFLIGHT",
     "oVASTNESS OR WASTINGoCONSTANCYoMEASUREoETERNITYoUNITYoDIMINISHMENToCLOSED MOUTH",
     "oGUARDEDNESSpATHERING INoMASSINGoACCUMULATIONoEMBELLISHMENToDOUBToWATCHoSINKINGoINNER",
     "oDEPARTUREpARKENINGpIMMINGoEXHAUSTIONoSEVERANCEpTOPPAGEoHARDNESSoCOMPLETIONpLOSUREoFAILURE",
     "oAGGRAVATIONoCOMPLIANCEoON THE VERGEoDIFFICULTIESoLABOURINGoFOSTERING"]),
   (0x1d360, [
     "aCOUNTING ROD UNIT DIGIT ONEyTWOzHREEyFOURzIVEySIXzEVENyEIGHTyNINEnTENS DIGIT ONEyTWOzHREE",
     "yFOURzIVEySIXzEVENyEIGHTyNINEaIDEOGRAPHIC TALLY MARK ONExTWOyHREExFOURyIVEaTALLY MARK ONE",
     "lFIVE"]),
   (0x1d400, [
     "aMATHEMATICAL BOLD CAPITAL A!B!C!D!E!F!G!H!I!J!K!L!M!N!O!P!Q!R!S!T!U!V!W!X!Y!ZsSMALL AyByC",
     "yDyEyFyGyHyIyJyKyLyMyNyOyPyQyRySyTyUyVyWyXyYyZnITALIC CAPITAL A%B%C%D%E%F%G%H%I%J%K%L%M%N",
     "%O%P%Q%R%S%T%U%V%W%X%Y%ZuSMALL A!B!C!D!E!F!G"]),
   (0x1d456, [
     "aMATHEMATICAL ITALIC SMALL I!J!K!L!M!N!O!P!Q!R!S!T!U!V!W!X!Y!ZnBOLD ITALIC CAPITAL A.B.C.D",
     ".E.F.G.H.I.J.K.L.M.N.O.P.Q.R.S.T.U.V.W.X.Y.ZzSMALL A+B+C+D+E+F+G+H+I+J+K+L+M+N+O+P+Q+R+S+T",
     "+U+V+W+X+Y+ZnSCRIPT CAPITAL A"]),
   (0x1d49e, ["aMATHEMATICAL SCRIPT CAPITAL C%D"]),
   (0x1d4a2, ["aMATHEMATICAL SCRIPT CAPITAL G"]),
   (0x1d4a5, ["aMATHEMATICAL SCRIPT CAPITAL J%K"]),
   (0x1d4a9, ["aMATHEMATICAL SCRIPT CAPITAL N%O%P%Q"]),
   (0x1d4ae, ["aMATHEMATICAL SCRIPT CAPITAL S%T%U%V%W%X%Y%ZuSMALL A!B!C!D"]),
   (0x1d4bb, ["aMATHEMATICAL SCRIPT SMALL F"]),
   (0x1d4bd, ["aMATHEMATICAL SCRIPT SMALL H!I!J!K!L!M!N"]),
   (0x1d4c5, [
     "aMATHEMATICAL SCRIPT SMALL P!Q!R!S!T!U!V!W!X!Y!ZnBOLD SCRIPT CAPITAL A.B.C.D.E.F.G.H.I.J.K",
     ".L.M.N.O.P.Q.R.S.T.U.V.W.X.Y.ZzSMALL A+B+C+D+E+F+G+H+I+J+K+L+M+N+O+P+Q+R+S+T+U+V+W+X+Y+Z",
     "nFRAKTUR CAPITAL A&B"]),
   (0x1d507, ["aMATHEMATICAL FRAKTUR CAPITAL D&E&F&G"]),
   (0x1d50d, ["aMATHEMATICAL FRAKTUR CAPITAL J&K&L&M&N&O&P&Q"]),
   (0x1d516, ["aMATHEMATICAL FRAKTUR CAPITAL S&T&U&V&W&X&Y"]),
   (0x1d51e, [
     "aMATHEMATICAL FRAKTUR SMALL A$B$C$D$E$F$G$H$I$J$K$L$M$N$O$P$Q$R$S$T$U$V$W$X$Y$Z",
     "nDOUBLE-STRUCK CAPITAL A:B"]),
   (0x1d53b, ["aMATHEMATICAL DOUBLE-STRUCK CAPITAL D:E:F:G"]),
   (0x1d540, ["aMATHEMATICAL DOUBLE-STRUCK CAPITAL I:J:K:L:M"]),
   (0x1d546, ["aMATHEMATICAL DOUBLE-STRUCK CAPITAL O"]),
   (0x1d54a, ["aMATHEMATICAL DOUBLE-STRUCK CAPITAL S:T:U:V:W:X:Y"]),
   (0x1d552, [
     "aMATHEMATICAL DOUBLE-STRUCK SMALL A.B.C.D.E.F.G.H.I.J.K.L.M.N.O.P.Q.R.S.T.U.V.W.X.Y.Z",
     "nBOLD FRAKTUR CAPITAL A/B/C/D/E/F/G/H/I/J/K/L/M/N/O/P/Q/R/S/T/U/V/W/X/Y/Z!SMALL A,B,C,D,E",
     ",F,G,H,I,J,K,L,M,N,O,P,Q,R,S,T,U,V,W,X,Y,ZnSANS-SERIF CAPITAL A,B,C,D,E,F,G,H,I,J,K,L,M,N",
     ",O,P,Q,R,S,T,U,V,W,X,Y,ZySMALL A*B*C*D*E*F*G*H*I*J*K*L*M*N*O*P*Q*R*S*T*U*V*W*X*Y*Z",
     "yBOLD CAPITAL A<B<C<D<E<F<G<H<I<J<K<L<M<N<O<P<Q<R<S<T<U<V<W<X<Y<Z&SMALL A:B:C:D:E:F:G:H:I",
     ":J:K:L:M:N:O:P:Q:R:S:T:U:V:W:X:Y:ZyITALIC CAPITAL A>B>C>D>E>F>G>H>I>J>K>L>M>N>O>P>Q>R>S>T",
     ">U>V>W>X>Y>Z+SMALL A<B<C<D<E<F<G<H<I<J<K<L<M<N<O<P<Q<R<S<T<U<V<W<X<Y<Z",
     "yBOLD ITALIC CAPITAL A|B|C|D|E|F|G|H|I|J|K|L|M|N|O|P|Q|R|S|T|U|V|W|X|Y|Z;SMALL A^B^C^D^E^F",
     "^G^H^I^J^K^L^M^N^O^P^Q^R^S^T^U^V^W^X^Y^ZnMONOSPACE CAPITAL A+B+C+D+E+F+G+H+I+J+K+L+M+N+O+P",
     "+Q+R+S+T+U+V+W+X+Y+ZxSMALL A&B&C&D&E&F&G&H&I&J&K&L&M&N&O&P&Q&R&S&T&U&V&W&X&Y&Z",
     "nITALIC SMALL DOTLESS I/J"]),
   (0x1d6a8, [
     "aMATHEMATICAL BOLD CAPITAL ALPHA!BETA!GAMMA!DELTA!EPSILON!ZETA!ETA!THETA!IOTA!KAPPA!LAMDA",
     "!MU!NU!XI!OMICRON!PI!RHO!THETA SYMBOL!SIGMA!TAU!UPSILON!PHI!CHI!PSI!OMEGAsNABLA",
     "sSMALL ALPHAyBETAyGAMMAyDELTAyEPSILONyZETAyETAyTHETAyIOTAyKAPPAyLAMDAyMUyNUyXIyOMICRONyPI",
     "yRHOyFINAL SIGMAySIGMAyTAUyUPSILONyPHIyCHIyPSIyOMEGAsPARTIAL DIFFERENTIALsEPSILON SYMBOL",
     "sTHETA SYMBOLsKAPPA SYMBOLsPHI SYMBOLsRHO SYMBOLsPI SYMBOLnITALIC CAPITAL ALPHA%BETA%GAMMA",
     "%DELTA%EPSILON%ZETA%ETA%THETA%IOTA%KAPPA%LAMDA%MU%NU%XI%OMICRON%PI%RHO%THETA SYMBOL%SIGMA",
     "%TAU%UPSILON%PHI%CHI%PSI%OMEGAuNABLAuSMALL ALPHA!BETA!GAMMA!DELTA!EPSILON!ZETA!ETA!THETA",
     "!IOTA!KAPPA!LAMDA!MU!NU!XI!OMICRON!PI!RHO!FINAL SIGMA!SIGMA!TAU!UPSILON!PHI!CHI!PSI!OMEGA",
     "uPARTIAL DIFFERENTIALuEPSILON SYMBOLuTHETA SYMBOLuKAPPA SYMBOLuPHI SYMBOLuRHO SYMBOL",
     "uPI SYMBOLnBOLD ITALIC CAPITAL ALPHA.BETA.GAMMA.DELTA.EPSILON.ZETA.ETA.THETA.IOTA.KAPPA",
     ".LAMDA.MU.NU.XI.OMICRON.PI.RHO.THETA SYMBOL.SIGMA.TAU.UPSILON.PHI.CHI.PSI.OMEGAzNABLA",
     "zSMALL ALPHA+BETA+GAMMA+DELTA+EPSILON+ZETA+ETA+THETA+IOTA+KAPPA+LAMDA+MU+NU+XI+OMICRON+PI",
     "+RHO+FINAL SIGMA+SIGMA+TAU+UPSILON+PHI+CHI+PSI+OMEGAzPARTIAL DIFFERENTIALzEPSILON SYMBOL",
     "zTHETA SYMBOLzKAPPA SYMBOLzPHI SYMBOLzRHO SYMBOLzPI SYMBOLnSANS-SERIF BOLD CAPITAL ALPHA",
     "<BETA<GAMMA<DELTA<EPSILON<ZETA<ETA<THETA<IOTA<KAPPA<LAMDA<MU<NU<XI<OMICRON<PI<RHO",
     "<THETA SYMBOL<SIGMA<TAU<UPSILON<PHI<CHI<PSI<OMEGA&NABLA&SMALL ALPHA:BETA:GAMMA:DELTA",
     ":EPSILON:ZETA:ETA:THETA:IOTA:KAPPA:LAMDA:MU:NU:XI:OMICRON:PI:RHO:FINAL SIGMA:SIGMA:TAU",
     ":UPSILON:PHI:CHI:PSI:OMEGA&PARTIAL DIFFERENTIAL&EPSILON SYMBOL&THETA SYMBOL&KAPPA SYMBOL",
     "&PHI SYMBOL&RHO SYMBOL&PI SYMBOL&ITALIC CAPITAL ALPHA|BETA|GAMMA|DELTA|EPSILON|ZETA|ETA",
     "|THETA|IOTA|KAPPA|LAMDA|MU|NU|XI|OMICRON|PI|RHO|THETA SYMBOL|SIGMA|TAU|UPSILON|PHI|CHI|PSI",
     "|OMEGA;NABLA;SMALL ALPHA^BETA^GAMMA^DELTA^EPSILON^ZETA^ETA^THETA^IOTA^KAPPA^LAMDA^MU^NU^XI",
     "^OMICRON^PI^RHO^FINAL SIGMA^SIGMA^TAU^UPSILON^PHI^CHI^PSI^OMEGA;PARTIAL DIFFERENTIAL",
     ";EPSILON SYMBOL;THETA SYMBOL;KAPPA SYMBOL;PHI SYMBOL;RHO SYMBOL;PI SYMBOL",
     "nBOLD CAPITAL DIGAMMAsSMALL DIGAMMA"]),
   (0x1d7ce, [
     "aMATHEMATICAL BOLD DIGIT ZEROyONEyTWOzHREEyFOURzIVEySIXzEVENyEIGHTyNINE",
     "nDOUBLE-STRUCK DIGIT ZERO.ONE.TWO/HREE.FOUR/IVE.SIX/EVEN.EIGHT.NINEnSANS-SERIF DIGIT ZERO",
     "*ONE*TWO+HREE*FOUR+IVE*SIX+EVEN*EIGHT*NINEyBOLD DIGIT ZERO:ONE:TWO;HREE:FOUR;IVE:SIX;EVEN",
     ":EIGHT:NINEnMONOSPACE DIGIT ZERO&ONE&TWO*HREE&FOUR*IVE&SIX*EVEN&EIGHT&NINE",
     "aSIGNWRITING HAND-FIST INDEXrCIRCLE INDEXsUP INDEXrOVAL INDEXrHINGE INDEXrANGLE INDEX",
     "rFIST INDEX BENTrCIRCLE INDEX BENTrFIST THUMB UNDER INDEX BENTwINDEX RAISED KNUCKLE%CUPPED",
     "%HINGED/ LOWrCIRCLE INDEX HINGErFIST INDEX MIDDLErCIRCLE INDEX MIDDLE",
     "rFIST INDEX MIDDLE BENT:RAISED KNUCKLES:HINGED%UP MIDDLE HINGED%HINGED MIDDLE UP",
     "%MIDDLE CONJOINED| INDEX BENT~MIDDLE BENT~CUPPED~HINGED;ROSSEDrCIRCLE INDEX MIDDLE CROSSED",
     "rFIST MIDDLE BENT OVER INDEXwINDEX BENT OVER MIDDLE%MIDDLE THUMBrCIRCLE INDEX MIDDLE THUMB",
     "rFIST INDEX MIDDLE STRAIGHT THUMB BENT:BENT THUMB STRAIGHT:THUMB BENT",
     ":HINGED SPREAD THUMB SIDE%UP MIDDLE HINGED THUMB SIDE~THUMB CONJOINED",
     "%HINGED MIDDLE UP THUMB SIDE%MIDDLE UP SPREAD THUMB FORWARD:THUMB CUPPED^IRCLED@HOOKED",
     "^INGEDwTHUMB BETWEEN INDEX MIDDLE STRAIGHTwINDEX MIDDLE CONJOINED THUMB SIDE",
     "~THUMB SIDE CONJOINED~THUMB SIDE BENTwMIDDLE THUMB HOOKED INDEX UP",
     "wINDEX THUMB HOOKED MIDDLE UP%MIDDLE CONJOINED HINGED THUMB SIDE;ROSSED THUMB SIDE",
     ";ONJOINED THUMB FORWARD~CUPPED THUMB FORWARDwMIDDLE THUMB CUPPED INDEX UP",
     "wINDEX THUMB CUPPED MIDDLE UPwMIDDLE THUMB CIRCLED INDEX UP~DEX HINGED",
     "wINDEX THUMB ANGLED OUT MIDDLE UP@IN MIDDLE UP/CIRCLED MIDDLE UP",
     "%MIDDLE THUMB CONJOINED HINGED@ANGLED OUT~EDwMIDDLE THUMB ANGLED OUT INDEX UP",
     "~ INDEX CROSSED^INDEX UPwINDEX THUMB HOOKED MIDDLE HINGEDsLAT FOUR FINGERS/ BENT:HINGED",
     ":CONJOINED| SPLITrCLAW FOUR FINGERS CONJOINEDrFIST FOUR FINGERS CONJOINED BENT",
     "rHINGE FOUR FINGERS CONJOINEDrFLAT FIVE FINGERS SPREADwHEEL FIVE FINGERS SPREAD",
     "wFIVE FINGERS SPREAD FOUR BENTwHEEL FIVE FINGERS SPREAD FOUR BENTwFIVE FINGERS SPREAD BENT",
     "wHEEL FIVE FINGERS SPREAD BENTwFIVE FINGERS SPREAD THUMB FORWARDrCUP FIVE FINGERS SPREAD",
     "? OPENrHINGE FIVE FINGERS SPREAD OPENrOVAL FIVE FINGERS SPREAD",
     "rFLAT FIVE FINGERS SPREAD HINGED~GED THUMB SIDE~GED NO THUMBvv BETWEEN PALM FACINGSwHEEL",
     "wTHUMB SIDEwHEEL THUMB SIDEwTHUMB BENT%FORWARDwSPLIT INDEX THUMB SIDE%CENTRE/ THUMB SIDE",
     "~ BENT%LITTLErCLAWv THUMB SIDEwNO THUMBwTHUMB FORWARDrHOOK CURLICUEvrCUP OPENu",
     "u OPEN THUMB SIDEvTHUMB SIDEvOPEN NO THUMBvNO THUMBvOPEN THUMB FORWARDvTHUMB FORWARD",
     "tRLICUE OPENzsIRCLErOVALv THUMB SIDEwNO THUMBwTHUMB FORWARDrHINGE OPEN$ THUMB FORWARDw",
     "w SMALLxOPEN THUMB SIDExTHUMB SIDExOPEN NO THUMBxNO THUMBxTHUMB SIDE TOUCHING INDEX",
     "&BETWEEN MIDDLE RINGrANGLErFIST INDEX MIDDLE RINGrCIRCLE INDEX MIDDLE RING",
     "rHINGE INDEX MIDDLE RINGrANGLE INDEX MIDDLE RINGrHINGE LITTLErFIST INDEX MIDDLE RING BENT",
     "?CONJOINEDrHINGE INDEX MIDDLE RING CONJOINEDrFIST LITTLE DOWN. RIPPLE STRAIGHT@CURVED",
     "/OTHERS CIRCLED&UPwTHUMB UNDER LITTLE UPrCIRCLE LITTLE UPrOVAL LITTLE UPrANGLE LITTLE UP",
     "rFIST LITTLE RAISED KNUCKLE&BENT&TOUCHES THUMB*HUMBrHINGE LITTLE THUMB",
     "rFIST LITTLE INDEX THUMBrHINGE LITTLE INDEX THUMBrANGLE LITTLE INDEX THUMB INDEX THUMB OUT",
     "~EX THUMBrFIST LITTLE INDEXrCIRCLE LITTLE INDEXrHINGE LITTLE INDEXrANGLE LITTLE INDEX",
     "rFIST INDEX MIDDLE LITTLErCIRCLE INDEX MIDDLE LITTLErHINGE INDEX MIDDLE LITTLExRING",
     "rANGLE INDEX MIDDLE LITTLErFIST INDEX MIDDLE CROSS LITTLErCIRCLE INDEX MIDDLE CROSS LITTLE",
     "rFIST RING DOWNrHINGE RING DOWN INDEX THUMB HOOK MIDDLE",
     "rANGLE RING DOWN MIDDLE THUMB INDEX CROSSrFIST RING UP$RAISED KNUCKLE$LITTLE",
     "rCIRCLE RING LITTLErOVAL RING LITTLErANGLE RING LITTLErFIST RING MIDDLE. CONJOINED",
     "/RAISED KNUCKLES$INDEX$THUMBrHOOK RING THUMBrFIST INDEX RING LITTLE",
     "rCIRCLE INDEX RING LITTLEsURLICUE INDEX RING LITTLE ONrHOOK INDEX RING LITTLE OUT?IN?UNDER",
     "rCUP INDEX RING LITTLErHINGE INDEX RING LITTLErANGLE INDEX RING LITTLE OUT?",
     "rFIST MIDDLE DOWNrHINGE MIDDLErFIST MIDDLE UPrCIRCLE MIDDLE UPrFIST MIDDLE RAISED KNUCKLE",
     "&UP THUMB SIDErHOOK MIDDLE THUMBrFIST MIDDLE THUMB LITTLE&LITTLE&RING LITTLE",
     "rCIRCLE MIDDLE RING LITTLEsURLICUE MIDDLE RING LITTLE ONtP MIDDLE RING LITTLE",
     "rHINGE MIDDLE RING LITTLErANGLE MIDDLE RING LITTLE OUT^IN@rCIRCLE MIDDLE RING LITTLE BENT",
     "sLAW MIDDLE RING LITTLE CONJOINED~OINED SIDErHOOK MIDDLE RING LITTLE CONJOINED OUT",
     "~OINED IN~OINEDsINGE INDEX HINGEDrFIST INDEX THUMB SIDErHINGE INDEX THUMB SIDE",
     "rFIST INDEX THUMB SIDE THUMB DIAGONAL~CONJOINED~BENT>INDEX BENT>BOTH BENT>INDEX HINGE",
     "/FORWARD INDEX STRAIGHT~EX BENT/HOOK/CURLICUE<VE THUMB INSIDE",
     "rCLAW INDEX THUMB CURVE THUMB INSIDErFIST INDEX THUMB CURVE THUMB UNDER:IRCLE",
     "rCUP INDEX THUMB, OPENrHINGE INDEX THUMB OPEN:LARGE// SMALLrANGLE INDEX THUMB OUT:IN/",
     "rFIST THUMB$ HEEL%SIDE DIAGONAL.CONJOINED.BENT%FORWARD%BETWEEN INDEX MIDDLE;MIDDLE RING",
     ";RING LITTLE%UNDER TWO FINGERS%OVER TWO FINGERS%UNDER THREE FINGERS/FOUR FINGERS",
     "%OVER FOUR RAISED KNUCKLESvv HEELmTOUCH SINGLEsMULTIPLEsBETWEENmGRASP SINGLEsMULTIPLE",
     "sBETWEENmSTRIKE SINGLEtMULTIPLEtBETWEENmBRUSH SINGLEsMULTIPLEsBETWEENmRUB SINGLEqMULTIPLE",
     "qBETWEENmSURFACE SYMBOLSuBETWEENnQUEEZE LARGE SINGLEuSMALL SINGLEuLARGE MULTIPLE",
     "uSMALL MULTIPLEvEQUENTIALmFLICK LARGE SINGLEsSMALL SINGLEsLARGE MULTIPLEsSMALL MULTIPLE",
     "tEQUENTIALmSQUEEZE FLICK ALTERNATINGmMOVEMENT-HINGE UP DOWN LARGE:SMALL*SEQUENTIAL",
     "$DOWN SEQUENTIAL$UP DOWN ALTERNATING LARGE~G SMALL$SIDE TO SIDE SCISSORS",
     "vWALLPLANE FINGER CONTACTvFLOORPLANE FINGER CONTACTvWALLPLANE SINGLE STRAIGHT SMALL",
     "~T MEDIUM~T LARGE~T LARGEST=WRIST FLEX+DOUBLE STRAIGHT=WRIST FLEX=ALTERNATING",
     "~TING WRIST FLEX+CROSS+TRIPLE STRAIGHT MOVEMENT=WRIST FLEX=ALTERNATING~TING WRIST FLEX",
     "+BEND SMALL;MEDIUM;LARGE+CORNER SMALL=MEDIUM=LARGE=ROTATION,HECK SMALL<MEDIUM<LARGE",
     "+BOX SMALL:MEDIUM:LARGE+ZIGZAG SMALL=MEDIUM=LARGE+PEAKS SMALL<MEDIUM<LARGE",
     "mTRAVEL-WALLPLANE ROTATION-WALLPLANE SINGLE~NE DOUBLE~NE ALTERNATING=FLOORPLANE SINGLE",
     "~ANE DOUBLE~ANE ALTERNATING&SHAKING&ARM SPIRAL SINGLE?DOUBLE?TRIPLE",
     "mMOVEMENT-DIAGONAL AWAY SMALL:MEDIUM:LARGE?ST*TOWARDS SMALL=MEDIUM=LARGE_ST",
     "*BETWEEN AWAY SMALL_MEDIUM_LARGE~RGEST=TOWARDS SMALL~ MEDIUM~ LARGE~ LARGEST",
     "vFLOORPLANE SINGLE STRAIGHT SMALL~HT MEDIUM~HT LARGE~HT LARGEST>WRIST FLEX,DOUBLE STRAIGHT",
     ">WRIST FLEX>ALTERNATING~ATING WRIST FLEX,CROSS,TRIPLE STRAIGHT MOVEMENT>WRIST FLEX",
     ">ALTERNATING MOVEMENT~ATING WRIST FLEX,BEND,CORNER SMALL>MEDIUM>LARGE.HECK,BOX SMALL",
     ";MEDIUM;LARGE,ZIGZAG SMALL>MEDIUM>LARGE,PEAKS SMALL=MEDIUM=LARGE",
     "mTRAVEL-FLOORPLANE ROTATION-FLOORPLANE SINGLE~LANE DOUBLE~LANE ALTERNATING",
     ">WALLPLANE SINGLE~ANE DOUBLE~ANE ALTERNATING*SHAKING",
     "mMOVEMENT-WALLPLANE CURVE QUARTER SMALL~MEDIUM~LARGE~LARGEST<HALF-CIRCLE SMALL~CLE MEDIUM",
     "~CLE LARGE~CLE LARGEST<THREE-QUARTER CIRCLE SMALL~ARTER CIRCLE MEDIUM+HUMP SMALL;MEDIUM",
     ";LARGE+LOOP SMALL;MEDIUM;LARGE;SMALL DOUBLE+WAVE CURVE DOUBLE SMALL~BLE MEDIUM~BLE LARGE",
     "^TRIPLE SMALL~PLE MEDIUM~PLE LARGE+CURVE THEN STRAIGHT;D CROSS SMALL|MEDIUM",
     "mROTATION-WALLPLANE SINGLE+DOUBLE+ALTERNATEmMOVEMENT-WALLPLANE SHAKING",
     "+CURVE HITTING FRONT WALL+HUMP HITTING FRONT WALL+LOOP HITTING FRONT WALL",
     "+WAVE HITTING FRONT WALLmROTATION-WALLPLANE SINGLE HITTING FRONT WALL",
     "+DOUBLE HITTING FRONT WALL+ALTERNATING HITTING FRONT WALL",
     "mMOVEMENT-WALLPLANE CURVE HITTING CHEST+HUMP HITTING CHEST+LOOP HITTING CHEST",
     "+WAVE HITTING CHESTmROTATION-WALLPLANE SINGLE HITTING CHEST+DOUBLE HITTING CHEST",
     "+ALTERNATING HITTING CHESTmMOVEMENT-WALLPLANE WAVE DIAGONAL PATH SMALL~PATH MEDIUM",
     "~PATH LARGEvFLOORPLANE CURVE HITTING CEILING SMALL~ CEILING LARGE",
     ",HUMP HITTING CEILING SMALL DOUBLE~CEILING LARGE DOUBLE~CEILING SMALL TRIPLE",
     "~CEILING LARGE TRIPLE,LOOP HITTING CEILING SMALL SINGLE~CEILING LARGE SINGLE",
     "~CEILING SMALL DOUBLE~CEILING LARGE DOUBLE,WAVE HITTING CEILING SMALL~CEILING LARGE",
     "mROTATION-FLOORPLANE SINGLE HITTING CEILING,DOUBLE HITTING CEILING",
     ",ALTERNATING HITTING CEILINGmMOVEMENT-FLOORPLANE CURVE HITTING FLOOR SMALL~ FLOOR LARGE",
     ",HUMP HITTING FLOOR SMALL DOUBLE~FLOOR LARGE DOUBLE~FLOOR TRIPLE SMALL TRIPLE",
     "~FLOOR TRIPLE LARGE TRIPLE,LOOP HITTING FLOOR SMALL SINGLE~FLOOR LARGE SINGLE",
     "~FLOOR SMALL DOUBLE~FLOOR LARGE DOUBLE,WAVE HITTING FLOOR SMALL~FLOOR LARGE",
     "mROTATION-FLOORPLANE SINGLE HITTING FLOOR,DOUBLE HITTING FLOOR,ALTERNATING HITTING FLOOR",
     "mMOVEMENT-FLOORPLANE CURVE SMALL=MEDIUM=LARGE_ST=COMBINED,HUMP SMALL,LOOP SMALL,WAVE SNAKE",
     "=MALL<LARGEmROTATION-FLOORPLANE SINGLE,DOUBLE,ALTERNATING",
     "mMOVEMENT-FLOORPLANE SHAKING PARALLELvWALLPLANE ARM CIRCLE SMALL SINGLE^MEDIUM SINGLE",
     "^SMALL DOUBLE^MEDIUM DOUBLEvFLOORPLANE ARM CIRCLE HITTING WALL SMALL SINGLE",
     "~TTING WALL MEDIUM SINGLE~TTING WALL LARGE SINGLE~TTING WALL SMALL DOUBLE",
     "~TTING WALL MEDIUM DOUBLE~TTING WALL LARGE DOUBLEvWALLPLANE WRIST CIRCLE FRONT SINGLE",
     "~RONT DOUBLEvFLOORPLANE WRIST CIRCLE HITTING WALL SINGLE~HITTING WALL DOUBLE",
     "vWALLPLANE FINGER CIRCLES SINGLE~ DOUBLEvFLOORPLANE FINGER CIRCLES HITTING WALL SINGLE",
     "~S HITTING WALL DOUBLEmDYNAMIC ARROWHEAD SMALL*LARGEuFASTuSLOWuTENSEuRELAXEDuSIMULTANEOUS",
     ", ALTERNATINGuEVERY OTHER TIMEuGRADUALmHEADq RIMrMOVEMENT-WALLPLANE STRAIGHT;TILT",
     "!FLOORPLANE STRAIGHT!WALLPLANE CURVE!FLOORPLANE CURVEz CIRCLE",
     "mFACE DIRECTION POSITION NOSE FORWARD TILTING@UP OR DOWN~R DOWN TILTING",
     "mEYEBROWS STRAIGHT UP*NEUTRAL*DOWNmDREAMY EYEBROWS NEUTRAL DOWN%DOWN NEUTRAL%UP NEUTRAL",
     "%NEUTRAL UPmFOREHEAD NEUTRALvCONTACTvWRINKLEDmEYES OPENrSQUEEZEDrCLOSEDp BLINK SINGLE",
     "wMULTIPLEpS HALF OPENrWIDE OPENrHALF CLOSEDrWIDENING MOVEMENTp WINKpLASHES UPwDOWN",
     "wFLUTTERINGpGAZE-WALLPLANE STRAIGHT= DOUBLE>ALTERNATINGuFLOORPLANE STRAIGHT> DOUBLE",
     "?ALTERNATINGuWALLPLANE CURVEDuFLOORPLANE CURVEDuWALLPLANE CIRCLINGmCHEEKS PUFFEDtNEUTRAL",
     "tSUCKEDmTENSE CHEEKS HIGHzMIDDLEzLOWmEARSmNOSE NEUTRALrCONTACTrWRINKLESsIGGLES",
     "mAIR BLOWING OUTqSUCKING INqBLOW SMALL ROTATIONSqSUCK SMALL ROTATIONSmBREATH INHALEtEXHALE",
     "mMOUTH CLOSED NEUTRALzFORWARDzCONTACTsSMILEx WRINKLEDyOPENsFROWNx WRINKLEDyOPEN",
     "sOPEN CIRCLExFORWARDxWRINKLEDxOVAL$ WRINKLED%YAWNxRECTANGLE, WRINKLED.YAWNsKISSw FORWARD",
     "xWRINKLEDsTENSEx FORWARDySUCKEDmLIPS PRESSED TOGETHERp LOWER OVER UPPERqUPPER OVER LOWER",
     "mMOUTH CORNERSsWRINKLES SINGLE$DOUBLEmTONGUE STICKING OUT FARtLICKING LIPS",
     "tTIP BETWEEN LIPSxTOUCHING INSIDE MOUTHtINSIDE MOUTH RELAXEDtMOVES AGAINST CHEEK",
     "tCENTRE STICKING OUT!INSIDE MOUTHnEETHr MOVEMENTsON TONGUE$ MOVEMENTvLIPSz MOVEMENT",
     "sBITE LIPSmMOVEMENT-WALLPLANE JAWvFLOORPLANE JAWmNECKmHAIRmEXCITEMENTmSHOULDER HIP SPINE",
     "zPOSITIONSmWALLPLANE SHOULDER HIP MOVEmFLOORPLANE SHOULDER HIP MOVE",
     "mSHOULDER TILTING FROM WAISTmTORSO-WALLPLANE STRAIGHT STRETCH%CURVED BEND",
     "sFLOORPLANE TWISTINGmUPPER BODY TILTING FROM HIP JOINTSmLIMB COMBINATIONrLENGTH-1y2y3y4y5",
     "y6y7mFINGERmLOCATION-WALLPLANE SPACEvFLOORPLANE SPACEu HEIGHTvWIDTHvDEPTHvHEAD NECKvTORSO",
     "vLIMBS DIGITSmCOMMAmFULL STOPmSEMICOLONmCOLONmPARENTHESIS"]),
   (0x1da9b, ["aSIGNWRITING FILL MODIFIER-2!3!4!5!6"]),
   (0x1daa1, ["aSIGNWRITING ROTATION MODIFIER-2*3*4*5*6*7*8*9*10+1+2+3+4+5+6"]),
   (0x1df00, [
     "aLATIN SMALL LETTER FENG DIGRAPH WITH TRILLtREVERSED SCRIPT G",
     "gLETTER SMALL CAPITAL TURNED GgSMALL LETTER REVERSED KgLETTER SMALL CAPITAL L WITH BELT",
     "gSMALL LETTER LEZH WITH RETROFLEX HOOKtTURNED Y WITH BELTtREVERSED ENG",
     "tTURNED R WITH LONG LEG AND RETROFLEX HOOKu WITH HOOK AND RETROFLEX HOOK",
     "gLETTER RETROFLEX CLICK WITH RETROFLEX HOOKgSMALL LETTER ESH WITH DOUBLE BAR= AND CURL",
     "tTURNED T WITH CURLgLETTER INVERTED GLOTTAL STOP WITH CURLnSTRETCHED C WITH CURL",
     "oMALL CAPITAL TURNED KgSMALL LETTER L WITH FISHHOOKtDEZH DIGRAPH WITH PALATAL HOOK",
     "tL WITH BELT AND PALATAL HOOKtENG WITH PALATAL HOOKtTURNED R WITH PALATAL HOOK",
     "tR WITH FISHHOOK AND PALATAL HOOKtTESH DIGRAPH WITH PALATAL HOOKtEZH WITH PALATAL HOOK",
     "tDEZH DIGRAPH WITH RETROFLEX HOOKtI WITH STROKE AND RETROFLEX HOOKtO WITH RETROFLEX HOOK",
     "tTESH DIGRAPH WITH RETROFLEX HOOKtC WITH RETROFLEX HOOKtS WITH CURL"]),
   (0x1e000, ["aCOMBINING GLAGOLITIC LETTER AZU%BUKY%VEDE%GLAGOLI%DOBRO%YESTU%ZHIVETE"]),
   (0x1e008, [
     "aCOMBINING GLAGOLITIC LETTER ZEMLJA%IZHE&NITIAL IZHE&%DJERVI%KAKO%LJUDIJE%MYSLITE%NASHI",
     "%ONU%POKOJI%RITSI%SLOVO%TVRIDO%UKU%FRITU%HERU"]),
   (0x1e01b, ["aCOMBINING GLAGOLITIC LETTER SHTA%TSI%CHRIVI%SHA%YERU+I&ATI"]),
   (0x1e023, ["aCOMBINING GLAGOLITIC LETTER YU%SMALL YUS"]),
   (0x1e026, ["aCOMBINING GLAGOLITIC LETTER YO%IOTATED SMALL YUS%BIG YUS%IOTATED BIG YUS%FITA"]),
   (0x1e100, [
     "aNYIAKENG PUACHUE HMONG LETTER MA*TSA*NTA*TA*HA*NA*XA*NKA*CA*LA*SA*ZA*NCA+TSA*KA*DA*NYA+RA",
     "*VA*NTXA*TXA*FA*RA*QA*YA*NQA*PA*XYA*NPA*DLA*NPLA*HAH*MLA*PLA*GA*RRA*A+A*I*U*O+O*E+E*W"]),
   (0x1e130, [
     "aNYIAKENG PUACHUE HMONG TONE-B%M%J%V%S%G%DxSIGN FOR PERSON,THING,LOCATION,ANIMAL",
     ",INVERTEBRATE%XW XWyYLLABLE LENGTHENER"]),
   (0x1e140, ["aNYIAKENG PUACHUE HMONG DIGIT ZERO&ONE&TWO*HREE&FOUR*IVE&SIX*EVEN&EIGHT&NINE"]),
   (0x1e14e, ["aNYIAKENG PUACHUE HMONG LOGOGRAM NYAJxCIRCLED CA"]),
   (0x1e290, [
     "aTOTO LETTER PAmBAmTAmDAmKAmGAmMAmNAnGAmSAmCHAmYAmWAmJAmHAmRAmLAmImBREATHY ImIUmBREATHY IU",
     "mUmEmBREATHY EmEOmBREATHY EOmOmAEmBREATHY AEmAfSIGN RISING TONE"]),
   (0x1e2c0, [
     "aWANCHO LETTER AApoBAoCAoDAoGAoYAoPHAoLAoNAoPAoTApHAoFAoSApHAoJAoZAoWAoVAoKAoOoAUoRAoMA",
     "oKHAoHAoEoIoNGAoUoLLHAoTSApRAoONGoAANGpNGoINGoONoENoAANoNYAoUENoYIHhTONE TUPpNImKOIpNI",
     "hDIGIT ZEROnONEnTWOoHREEnFOURoIVEnSIXoEVENnEIGHTnNINE"]),
   (0x1e2ff, ["aWANCHO NGUN SIGN"]),
   (0x1e7e0, ["aETHIOPIC SYLLABLE HHYAvUvIvAAvEEwvO"]),
   (0x1e7e8, ["aETHIOPIC SYLLABLE GURAGE HHWAsHHWIvEEw"]),
   (0x1e7ed, ["aETHIOPIC SYLLABLE GURAGE MWI$EE"]),
   (0x1e7f0, ["aETHIOPIC SYLLABLE GURAGE QWI$EE%zBWI$EEzKWI$EE%zGWI$EE%zFWI$EEzPWI$EE"]),
   (0x1e800, [
     "aMENDE KIKAKUI SYLLABLE M001 KI!2 KA!3 KUz65 KEEz95 KEz76 KOOz48 KOy179 KUAy004 WI!5 WA",
     "!6 WUy126 WEEz18 WE!4 WOOy045 WOy194 WUIz43 WEIy061 WVIz49 WVAy139 WVEy007 MIN!8 MAN!9 MUN",
     "z59 MENz94 MONy154 MUANz89 MUENy010 BI!1 BA!2 BUy150 BEEy097 BEy103 BOOz38 BOy013 I!4 A",
     "!5 Uy163 EEz00 Ez65 OOz47 Oz37 EI!1 IN!5 INz95 ANz78 ENy019 SIz20 SA!1 SUy162 SEEz16 SE",
     "z36 SOOy079 SOy196 SIAy025 LI!6 LA!7 LUz84 LEEz73 LEz54 LOOy153 LOz10 LONG LEy016 DI!7 DA",
     "!8 DUz89 DEEy180 DOO!1 DOy022 TI!3 TA!4 TUz91 TEEz55 TEy104 TOOy069 TOz28 JI!9 JAz30 JU",
     "y157 JEEz13 JEz60 JOOy063 JOy175 LONG JOy031 YI!2 YA!3 YUy109 YEEy080 YEy141 YOOz21 YO",
     "y034 FI!5 FA!6 FUz78 FEE!5 FEy133 FOOy088 FOy197 FUAz01 FANy037 NIN!8 NAN!9 NUNy117 NEN",
     "z69 NONz76 HIy041 HAy186 HUy040 HEEz96 HEz42 HOOy140 HOy083 HEEIy128 HOOUy053 HINy130 HAN",
     "y087 HUNz52 HENy193 HONy046 HUANz90 NGGIz43 NGGAz82 NGGUy115 NGGEEz46 NGGEz56 NGGOO",
     "z20 NGGOz59 NGGAAz27 NGGUAy086 LONG NGGEy106 LONG NGGOOz83 LONG NGGOz55 GIz11 GAz68 GU",
     "z90 GEEz66 GUEI!7 GUANz84 NGENy057 NGONy177 NGUANy068 PIz99 PAz50 PUz81 PEEz51 PEy102 POO",
     "y066 POy145 MBIy062 MBAy122 MBUy047 MBEEy188 MBEEy072 MBEy172 MBOO!4 MBOz87 MBUU",
     "z61 LONG MBEz05 LONG MBOOz42 LONG MBOz32 KPIy092 KPAz74 KPUz44 KPEEy108 KPEz12 KPOOz58 KPO",
     "z24 GBIy056 GBAy148 GBUy093 GBEEy107 GBEy071 GBOO!0 GBOy171 RAz23 NDI!9 NDA!5 NDUz91 NDEE",
     "z19 NDEy067 NDOO!4 NDOy152 NJAz92 NJUz49 NJEEz34 NJOOz82 VI!5 VAz51 VUz73 VEEy085 VE",
     "y144 VOOy077 VOy164 NYINy058 NYANy170 NYUNy098 NYENz60 NYON"]),
   (0x1e8c7, [
     "aMENDE KIKAKUI DIGIT ONEuTWOvHREEuFOURvIVEuSIXvEVENuEIGHTuNINEoCOMBINING NUMBER TEENS.NS",
     "+HUNDREDS+THOUSANDS,EN THOUSANDS+HUNDRED THOUSANDS+MILLIONS"]),
   (0x1e900, [
     "aADLAM CAPITAL LETTER ALIFvDAALIvLAAMvMIIMvBAvSINNYIIYHEvPEvBHEvRAvEvFAvIvOvDHAvYHEvWAW",
     "vNUNvKAFvYAvUvJIIMvCHIvHAvQAAFvGAvNYAvTUvNHAvVAvKHAvGBEvZALvKPOvSHAgSMALL LETTER ALIF",
     "tDAALItLAAMtMIIMtBAtSINNYIIYHEtPEtBHEtRAtEtFAtItOtDHAtYHEtWAWtNUNtKAFtYAtUtJIIMtCHItHA",
     "tQAAFtGAtNYAtTUtNHAtVAtKHAtGBEtZALtKPOtSHAgALIF LENGTHENERgVOWEL LENGTHENER",
     "gGEMINATION MARKgHAMZAgCONSONANT MODIFIERgGEMINATE CONSONANT MODIFIERgNUKTA",
     "hASALIZATION MARK"]),
   (0x1e950, ["aADLAM DIGIT ZEROmONEmTWOnHREEmFOURnIVEmSIXnEVENmEIGHTmNINE"]),
   (0x1e95e, ["aADLAM INITIAL EXCLAMATION MARKoQUESTION MARK"]),
   (0x1ec71, [
     "aINDIC SIYAQ NUMBER ONEtTWOuHREEtFOURuIVEtSIXuEVENtEIGHTtNINEtTENuWENTYuHIRTYtFORTYuIFTY",
     "tSIXTYuEVENTYtEIGHTYtNINETYtONE HUNDREDtTWO HUNDREDuHREE HUNDREDtFOUR HUNDREDuIVE HUNDRED",
     "tSIX HUNDREDuEVEN HUNDREDtEIGHT HUNDREDtNINE HUNDREDtONE THOUSANDtTWO THOUSAND",
     "uHREE THOUSANDtFOUR THOUSANDuIVE THOUSANDtSIX THOUSANDuEVEN THOUSANDtEIGHT THOUSAND",
     "tNINE THOUSANDtTEN THOUSANDuWENTY THOUSANDuHIRTY THOUSANDtFORTY THOUSANDuIFTY THOUSAND",
     "tSIXTY THOUSANDuEVENTY THOUSANDtEIGHTY THOUSANDtNINETY THOUSANDtLAKHxANmLAKH MARK",
     "mNUMBER KARORyANtPREFIXED ONE%TWO&HREE%FOUR&IVE%SIX&EVEN%EIGHT%NINEmPLACEHOLDER",
     "mFRACTION ONE QUARTERzHALFvTHREE QUARTERSmRUPEE MARKmNUMBER ALTERNATE ONE&TWO*EN THOUSAND",
     "mALTERNATE LAKH MARK"]),
   (0x1ed01, [
     "aOTTOMAN SIYAQ NUMBER ONEvTWOwHREEvFOURwIVEvSIXwEVENvEIGHTvNINEvTENwWENTYwHIRTYvFORTYwIFTY",
     "vSIXTYwEVENTYvEIGHTYvNINETYvONE HUNDREDvTWO HUNDREDwHREE HUNDREDvFOUR HUNDREDwIVE HUNDRED",
     "vSIX HUNDREDwEVEN HUNDREDvEIGHT HUNDREDvNINE HUNDREDvONE THOUSANDvTWO THOUSAND",
     "wHREE THOUSANDvFOUR THOUSANDwIVE THOUSANDvSIX THOUSANDwEVEN THOUSANDvEIGHT THOUSAND",
     "vNINE THOUSANDvTEN THOUSANDwWENTY THOUSANDwHIRTY THOUSANDvFORTY THOUSANDwIFTY THOUSAND",
     "vSIXTY THOUSANDwEVENTY THOUSANDvEIGHTY THOUSANDvNINETY THOUSANDoMARRATAN",
     "oALTERNATE NUMBER TWO,HREE+FOUR,IVE+SIX,EVEN+EIGHT+NINE+TEN+FOUR HUNDRED+SIX HUNDRED",
     "+TWO THOUSAND,EN THOUSANDoFRACTION ONE HALF$SIXTH"]),
   (0x1ee00, ["aARABIC MATHEMATICAL ALEFuBEHuJEEMuDAL"]),
   (0x1ee05, [
     "aARABIC MATHEMATICAL WAWuZAINuHAHuTAHuYEHuKAFuLAMuMEEMuNOONuSEENuAINuFEHuSADuQAFuREHuSHEEN",
     "uTEHvHEHuKHAHuTHALuDADuZAHuGHAINuDOTLESS BEH%NOON%FEH%QAF"]),
   (0x1ee21, ["aARABIC MATHEMATICAL INITIAL BEH%JEEM"]),
   (0x1ee24, ["aARABIC MATHEMATICAL INITIAL HEH"]),
   (0x1ee27, ["aARABIC MATHEMATICAL INITIAL HAH"]),
   (0x1ee29, ["aARABIC MATHEMATICAL INITIAL YEH%KAF%LAM%MEEM%NOON%SEEN%AIN%FEH%SAD%QAF"]),
   (0x1ee34, ["aARABIC MATHEMATICAL INITIAL SHEEN%TEH&HEH%KHAH"]),
   (0x1ee39, ["aARABIC MATHEMATICAL INITIAL DAD"]),
   (0x1ee3b, ["aARABIC MATHEMATICAL INITIAL GHAIN"]),
   (0x1ee42, ["aARABIC MATHEMATICAL TAILED JEEM"]),
   (0x1ee47, ["aARABIC MATHEMATICAL TAILED HAH"]),
   (0x1ee49, ["aARABIC MATHEMATICAL TAILED YEH"]),
   (0x1ee4b, ["aARABIC MATHEMATICAL TAILED LAM"]),
   (0x1ee4d, ["aARABIC MATHEMATICAL TAILED NOON$SEEN$AIN"]),
   (0x1ee51, ["aARABIC MATHEMATICAL TAILED SAD$QAF"]),
   (0x1ee54, ["aARABIC MATHEMATICAL TAILED SHEEN"]),
   (0x1ee57, ["aARABIC MATHEMATICAL TAILED KHAH"]),
   (0x1ee59, ["aARABIC MATHEMATICAL TAILED DAD"]),
   (0x1ee5b, ["aARABIC MATHEMATICAL TAILED GHAIN"]),
   (0x1ee5d, ["aARABIC MATHEMATICAL TAILED DOTLESS NOON"]),
   (0x1ee5f, ["aARABIC MATHEMATICAL TAILED DOTLESS QAF"]),
   (0x1ee61, ["aARABIC MATHEMATICAL STRETCHED BEH*JEEM"]),
   (0x1ee64, ["aARABIC MATHEMATICAL STRETCHED HEH"]),
   (0x1ee67, ["aARABIC MATHEMATICAL STRETCHED HAH*TAH*YEH*KAF"]),
   (0x1ee6c, ["aARABIC MATHEMATICAL STRETCHED MEEM*NOON*SEEN*AIN*FEH*SAD*QAF"]),
   (0x1ee74, ["aARABIC MATHEMATICAL STRETCHED SHEEN*TEH+HEH*KHAH"]),
   (0x1ee79, ["aARABIC MATHEMATICAL STRETCHED DAD*ZAH*GHAIN*DOTLESS BEH"]),
   (0x1ee7e, ["aARABIC MATHEMATICAL STRETCHED DOTLESS FEH"]),
   (0x1ee80, ["aARABIC MATHEMATICAL LOOPED ALEF$BEH$JEEM$DAL$HEH$WAW$ZAIN$HAH$TAH$YEH"]),
   (0x1ee8b, [
     "aARABIC MATHEMATICAL LOOPED LAM$MEEM$NOON$SEEN$AIN$FEH$SAD$QAF$REH$SHEEN$TEH%HEH$KHAH$THAL",
     "$DAD$ZAH$GHAIN"]),
   (0x1eea1, ["aARABIC MATHEMATICAL DOUBLE-STRUCK BEH/JEEM/DAL"]),
   (0x1eea5, ["aARABIC MATHEMATICAL DOUBLE-STRUCK WAW/ZAIN/HAH/TAH/YEH"]),
   (0x1eeab, [
     "aARABIC MATHEMATICAL DOUBLE-STRUCK LAM/MEEM/NOON/SEEN/AIN/FEH/SAD/QAF/REH/SHEEN/TEH:HEH",
     "/KHAH/THAL/DAD/ZAH/GHAIN"]),
   (0x1eef0, ["aARABIC MATHEMATICAL OPERATOR MEEM WITH HAH WITH TATWEEL&HAH WITH DAL"])]

end TokenTemplate.Unicode
