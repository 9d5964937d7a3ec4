import TokenTemplate.Unicode.Name.Run

/-!
# Names of historic scripts

The names that version 14 of the standard gives to characters:
the scripts of past ages.
-/

namespace TokenTemplate.Unicode

/-- Runs of characters with their names. -/
def historicNames : List NameRun :=
  [(0x10000, [
     "aLINEAR B SYLLABLE B008 Au38 Eu28 Iu61 Ou10 Uu01 DAu45 DEu07 DIu14 DOu51 DUv7 JAu46 JE"]),
   (0x1000d, [
     "aLINEAR B SYLLABLE B036 JOu65 JUu77 KAu44 KEu67 KIu70 KOu81 KUv0 MAu13 MEu73 MIu15 MO",
     "u23 MUu06 NAu24 NEu30 NIu52 NOv5 NUu03 PAu72 PEu39 PIu11 POu50 PUu16 QAu78 QEu21 QIu32 QO"]),
   (0x10028, [
     "aLINEAR B SYLLABLE B060 RAu27 REu53 RIu02 ROu26 RUu31 SAu09 SEu41 SIu12 SOu58 SUv9 TA",
     "u04 TEu37 TIu05 TOu69 TUu54 WAu75 WEu40 WIv2 WO"]),
   (0x1003c, ["aLINEAR B SYLLABLE B017 ZAu74 ZE"]),
   (0x1003f, [
     "aLINEAR B SYLLABLE B020 ZOv5 A2u43 A3u85 AUu71 DWEu90 DWOu48 NWAu29 PU2u62 PTEu76 RA2",
     "u33 RA3u68 RO2v6 TA2u87 TWEu91 TWO"]),
   (0x10050, ["aLINEAR B SYMBOL B018t9s22s34s47t9s56s63t4s79s82t3t6t9"]),
   (0x10080, [
     "aLINEAR B IDEOGRAM B100 MANv2 WOMANv4 DEERv5 EQUIDwF MAREwM STALLIONv6F EWEwM RAM",
     "v7F SHE-GOATwM HE-GOATv8F SOWwM BOARv9F COWwM BULLu20 WHEATv1 BARLEYv2 OLIVEv3 SPICE",
     "v5 CYPERUSjMONOGRAM B127 KAPOv8 KANAKOjIDEOGRAM B130 OILv1 WINEv2jMONOGRAM B133 AREPA",
     "v5 MERIjIDEOGRAM B140 BRONZEv1 GOLDv2v5 WOOLv6u50v1 HORNv2v3v4jMONOGRAM B156 TURO2",
     "jIDEOGRAM B157v8v9 CLOTHu60v1v2 GARMENTv3 ARMOURv4v5v6v7v8v9u70v1v2v3 MONTHv4v6 TREEv7v8v9",
     "u80v1v2v3v4v5v9u90v1 HELMETt220 FOOTSTOOLv5 BATHTUBu30 SPEARv1 ARROWv2v3 SWORDv4v6",
     "u40 WHEELED CHARIOTv1 CHARIOTv2 CHARIOT FRAMEv3 WHEELv5v6jMONOGRAM B247 DIPTE",
     "jIDEOGRAM B248v9u51v2v3v4 DARTv5v6v7v8v9sVESSEL B155!200%1%2%3%4%5%6%7%8%9$10%1%2%3%4%5%6",
     "%7%8%9$21%2%6%7%8%9$50!305"]),
   (0x10100, ["aAEGEAN WORD SEPARATOR LINEwDOThCHECK MARK"]),
   (0x10107, [
     "aAEGEAN NUMBER ONEoTWOpHREEoFOURpIVEoSIXpEVENoEIGHToNINEoTENpWENTYpHIRTYoFORTYpIFTYoSIXTY",
     "pEVENTYoEIGHTYoNINETYoONE HUNDREDoTWO HUNDREDpHREE HUNDREDoFOUR HUNDREDpIVE HUNDRED",
     "oSIX HUNDREDpEVEN HUNDREDoEIGHT HUNDREDoNINE HUNDREDoONE THOUSANDoTWO THOUSAND",
     "pHREE THOUSANDoFOUR THOUSANDpIVE THOUSANDoSIX THOUSANDpEVEN THOUSANDoEIGHT THOUSAND",
     "oNINE THOUSANDoTEN THOUSANDpWENTY THOUSANDpHIRTY THOUSANDoFORTY THOUSANDpIFTY THOUSAND",
     "oSIXTY THOUSANDpEVENTY THOUSANDoEIGHTY THOUSANDoNINETY THOUSAND"]),
   (0x10137, [
     "aAEGEAN WEIGHT BASE UNIToFIRST SUBUNIToSECOND SUBUNIToTHIRD SUBUNIToFOURTH SUBUNIT",
     "hDRY MEASURE FIRST SUBUNIThLIQUID MEASURE FIRST SUBUNIThMEASURE SECOND SUBUNIT",
     "pTHIRD SUBUNITaGREEK ACROPHONIC ATTIC ONE QUARTER$HALF$DRACHMAxFIVEzFTYzVE HUNDRED",
     "%THOUSANDzFTY THOUSANDzVE TALENTSxTEN TALENTSxFIFTY TALENTSxONE HUNDRED TALENTS",
     "xFIVE HUNDRED TALENTSxONE THOUSAND TALENTSxFIVE THOUSAND TALENTS%STATERSxTEN STATERS",
     "xFIFTY STATERSxONE HUNDRED STATERSxFIVE HUNDRED STATERSxONE THOUSAND STATERS",
     "xTEN THOUSAND STATERSxFIFTY THOUSAND STATERSxTEN MNASrHERAEUM ONE PLETHRONrTHESPIAN ONE",
     "rHERMIONIAN ONErEPIDAUREAN TWOrTHESPIAN TWOrCYRENAIC TWO DRACHMASrEPIDAUREAN TWO DRACHMAS",
     "rTROEZENIAN FIVE%TEN+ ALTERNATE FORMrHERMIONIAN TENrMESSENIAN TENrTHESPIAN TEN$HIRTY",
     "sROEZENIAN FIFTY. ALTERNATE FORMrHERMIONIAN FIFTYrTHESPIAN FIFTY!ONE HUNDRED!THREE HUNDRED",
     "rEPIDAUREAN FIVE HUNDREDrTROEZENIAN FIVE HUNDREDsHESPIAN FIVE HUNDRED",
     "rCARYSTIAN FIVE HUNDREDrNAXIAN FIVE HUNDREDrTHESPIAN ONE THOUSAND!FIVE THOUSAND",
     "rDELPHIC FIVE MNASrSTRATIAN FIFTY MNASgONE HALF SIGNt ALTERNATE FORMgTWO THIRDS SIGN",
     "hHREE QUARTERS SIGNgYEAR SIGNgTALENT SIGNgDRACHMA SIGNgOBOL SIGNgTWO OBOLS SIGN",
     "hHREE OBOLS SIGNgFOUR OBOLS SIGNhIVE OBOLS SIGNgMETRETES SIGNgKYATHOS BASE SIGNgLITRA SIGN",
     "gOUNKIA SIGNgXESTES SIGNgARTABE SIGNiOURA SIGNgGRAMMA SIGNgTRYBLION BASE SIGNgZERO SIGN",
     "gONE QUARTER SIGNgSINUSOID SIGNgINDICTION SIGNaNOMISMA SIGN"]),
   (0x10190, [
     "aROMAN SEXTANS SIGNgUNCIA SIGNgSEMUNCIA SIGNiXTULA SIGNgDIMIDIA SEXTULA SIGNgSILIQUA SIGN",
     "gDENARIUS SIGNgQUINARIUS SIGNgSESTERTIUS SIGNgDUPONDIUS SIGNgAS SIGNgCENTURIAL SIGN",
     "aASCIA SYMBOL"]),
   (0x101a0, ["aGREEK SYMBOL TAU RHO"]),
   (0x101d0, [
     "aPHAISTOS DISC SIGN PEDESTRIANuLUMED HEADtTATTOOED HEADtCAPTIVEuHILDtWOMANtHELMETtGAUNTLET",
     "tTIARAtARROWtBOWtSHIELDtCLUBtMANACLESvTTOCKtSAWtLIDtBOOMERANGtCARPENTRY PLANEtDOLIUMtCOMB",
     "tSLINGtCOLUMNtBEEHIVEtSHIPtHORNuIDEtBULLS LEGtCATtRAMtEAGLEtDOVEtTUNNYtBEEtPLANE TREEtVINE",
     "tPAPYRUStROSETTEtLILYtOX BACKtFLUTEtGRATERtSTRAINERuMALL AXEtWAVY BAND",
     "tCOMBINING OBLIQUE STROKE"]),
   (0x10280, ["aLYCIAN LETTER AoEoBpHoGoDoIoWoZoTHoJoKoQoLoMoNoMMoNNoUoPoKKoRoSoTpToANoENoHoX"]),
   (0x102a0, [
     "aCARIAN LETTER AoP2oDoLoUUUoRoLDoA2oQoBoMoOoD2oToSHq2poC-18oUoNNoXoNoTT2oPoSSoIoEoUUUUoKp2",
     "oNDoUUoGp2oSTq2oNGoIIoC-39oTToUUU2oRRoMBq2q3q4oLD2oE2oUUU3"]),
   (0x102e0, [
     "aCOPTIC EPACT THOUSANDS MARKnDIGIT ONEtTWOuHREEtFOURuIVEtSIXuEVENtEIGHTtNINEnNUMBER TEN",
     "vWENTYvHIRTYuFORTYvIFTYuSIXTYvEVENTYuEIGHTYuNINETYuONE HUNDREDuTWO HUNDREDvHREE HUNDRED",
     "uFOUR HUNDREDvIVE HUNDREDuSIX HUNDREDvEVEN HUNDREDuEIGHT HUNDREDuNINE HUNDRED"]),
   (0x10300, [
     "aOLD ITALIC LETTER AsBEsKEsDEsEsVEsZEsHEsTHEsIsKAsELtMtNtSHsOsPEsSHEsKUsERtSsTEsUsEKSsPHE",
     "sKHEsEFtRSsCHEsIIsUUsESSlNUMERAL ONEtFIVEtTENtFIFTY"]),
   (0x1032d, [
     "aOLD ITALIC LETTER YEsNORTHERN TSEsSOUTHERN TSEaGOTHIC LETTER AHSAoBAIRKANoGIBAoDAGS",
     "oAIHVUSoQAIRTHRAoIUJAoHAGLoTHIUTHoEISoKUSMAoLAGUSoMANNAoNAUTHSoJERoURUSoPAIRTHRAoNINETY",
     "oRAIDAoSAUILoTEIWSoWINJAoFAIHUoIGGWSoHWAIRoOTHALoNINE HUNDRED"]),
   (0x10350, [
     "aOLD PERMIC LETTER ANsBURsGAIsDOIsEsZHOIsDZHOIsZATAsDZITAsIsKOKEsLEIsMENOEsNENOEsVOOIsPEEI",
     "sREIsSIIsTAIsUsCHERYsSHOOIuCHOOIsYRYtERUsOtOsEFsHAsTSIUsVERsYERvItATsIEsYUtAsIA",
     "aCOMBINING OLD PERMIC LETTER AN%DOI%ZATA%NENOE%SII"]),
   (0x10380, [
     "aUGARITIC LETTER ALPAqBETAqGAMLAqKHAqDELTAqHOqWOqZETAqHOTAqTETqYODqKAFqSHINqLAMDAqMEMqDHAL",
     "qNUNqZUqSAMKAqAINqPUqSADEqQOPAqRASHAqTHANNAqGHAINqTOqIqUqSSU"]),
   (0x1039f, [
     "aUGARITIC WORD DIVIDERaOLD PERSIAN SIGN ArIrUrKAsUrGAsUrXArCArJAsIrTAsUrDAsIsUrTHArPArBA",
     "rFArNAsUrMAsIsUrYArVAsIrRAsUrLArSArZArSHAsSArHA"]),
   (0x103c8, [
     "aOLD PERSIAN SIGN AURAMAZDAA$-2$HArXSHAAYATHIYArDAHYAAUSH!-2rBAGAsUUMISHmWORD DIVIDER",
     "mNUMBER ONEtTWOuENuWENTYtHUNDRED"]),
   (0x10400, [
     "aDESERET CAPITAL LETTER LONG I%E%A&H%O&OxSHORT I&E&A*H&O*OxAYxOWxWUxYEExHxPEExBEExTEExDEE",
     "xCHEExJEExKAYxGAYxEFxVEExETHxTHEExESxZEExESHxZHEExERyLyMyNzGxOIxEWiSMALL LETTER LONG I!E!A",
     "$H!O$OvSHORT I$E$A%H$O%OvAYvOWvWUvYEEvHvPEEvBEEvTEEvDEEvCHEEvJEEvKAYvGAYvEFvVEEvETHvTHEE",
     "vESvZEEvESHvZHEEvERwLwMwNxGvOIvEWaSHAVIAN LETTER PEEPpTOTpKICKpFEEpTHIGHpSOqUREpCHURCHpYEA",
     "pHUNGpBIBpDEADpGAGpVOWpTHEYpZOOpMEASUREpJUDGEpWOEpHA-HApLOLLpMIMEpIFpEGGpASHqDOpONpWOOL",
     "pOUTpAHpROARpNUNpEATpAGEpICEpUPpOAKqOZEqILpAWEqREpORpAIRpERRpARRAYpEARpIANpYEW",
     "aOSMANYA LETTER ALEFpBApTApJApXApKHApDEELpRApSAqHIINpDHApCAYNpGApFApQAAFpKAAFpLAANpMIIN",
     "pNUUNpWAWpHApYApApEpIpOpUpAApEEpOO"]),
   (0x104a0, ["aOSMANYA DIGIT ZEROoONEoTWOpHREEoFOURpIVEoSIXpEVENoEIGHToNINE"]),
   (0x104b0, [
     "aOSAGE CAPITAL LETTER AwIxNwHvBRAvCHAvEHCHAwwINvHAwYAvIvKAvEHKAvKYAvLAvMAvNAvOwINvPAvEHPA",
     "vSAwHAvTAvEHTAvTSAvEHTSAvTSHAvDHAvUvWAvKHAvGHAvZAwHA"]),
   (0x104d8, [
     "aOSAGE SMALL LETTER AuIvNuHtBRAtCHAtEHCHAuuINtHAuYAtItKAtEHKAtKYAtLAtMAtNAtOuINtPAtEHPAtSA",
     "uHAtTAtEHTAtTSAtEHTSAtTSHAtDHAtUtWAtKHAtGHAtZAuHA"]),
   (0x10500, [
     "aELBASAN LETTER ApBEpCEqHEpDEpNDEpDHEpEIqpFEpGEqJEpHEpIpJEpKEpLEqLEpMEpNEqAqJEpOpPEpQEpRE",
     "qREpSEqHEpTEqHEpUpVEpXEpYpZEqHEpGHErAMMApKHE"]),
   (0x10530, [
     "aCAUCASIAN ALBANIAN LETTER ALT!BET!GIM!DAT!EB!ZARL!EYN!ZHIL!TAS!CHA!YOWD!ZHA!IRB!SHA!LAN",
     "!INYA!XEYN!DYAN!CAR!JHOX!KAR!LYIT!HEYT!QAY!AOR!CHOY%I$YAY!MAQ!QAR!NOWC!DZYAY!SHAK!JAYN!ON",
     "!TYAY!FAM!DZAY!CHAT!PEN!GHEYS!RAT!SEYK!VEYZ!TIWR!SHOY!IWN!CYAW$AYN!YAYD!PIWR!KIW"]),
   (0x1056f, [
     "aCAUCASIAN ALBANIAN CITATION MARKaVITHKUQI CAPITAL LETTER AyBBEzEyCEzHEyDEzHEyEIzyFEyGA"]),
   (0x1057c, ["aVITHKUQI CAPITAL LETTER HAzHAyIzJEyJEyKAyLAzLAyMEyNEzJEyOyPEyQAyRE"]),
   (0x1058c, ["aVITHKUQI CAPITAL LETTER SEzHEyTEzHEyUyVEyXE"]),
   (0x10594, ["aVITHKUQI CAPITAL LETTER YyZE"]),
   (0x10597, ["aVITHKUQI SMALL LETTER AwBBExEwCExHEwDExHEwEIxwFEwGA"]),
   (0x105a3, ["aVITHKUQI SMALL LETTER HAxHAwIxJEwJEwKAwLAxLAwMEwNExJEwOwPEwQAwRE"]),
   (0x105b3, ["aVITHKUQI SMALL LETTER SExHEwTExHEwUwVEwXE"]),
   (0x105bb, ["aVITHKUQI SMALL LETTER YwZE"]),
   (0x10600, [
     "aLINEAR A SIGN AB001s2s3s4s5s6s7s8s9r10s1s3s6s7r20s1tFtMs2tFtMs3tMs4s6s7s8p028BpB029r30s1",
     "s4s7s8s9r40s1s4s5s6s7s8s9r50s1s3s4s5s6s7s8s9r60s1s5s6s7s9r70s3s4s6s7s8s9r80s1s2s5s6s7",
     "p100-102pB118r20p120BpB122s3r31AtBp131CpB164r71r80s8r91p301r2r3r4r5r6r7r8r9AsBsCq10r1r2r3A",
     "sBsCr4r5r6r7r8r9q20r1r2r3r4r5r6r7r8r9q30r1r2r3r4r5r6r7r8r9q40r1r2r3r4r5r6r7r8r9q50r1r2r3r4",
     "r5r6r7r8r9q60r1r2r3r4r5r6r7r8r9q70r1p400-VASr1-VASr2-VASr3-VASr4-VASr5-VASr6-VASr7-VAS",
     "r8-VASr9-VASq10-VASr1-VASr2-VASr3-VASr4-VASr5-VASr6-VASr7-VASr8-VASp501r2r3r4r5r6r8r9q10r1",
     "r2r3r5r6q20r1r3r4r5r6r7r8r9q30r1r2r4r5r6r7r8r9q40r1r2r5r7r8r9q50r1r2r3r4r5r6r7r9q63r4r5r6",
     "r8r9q70r1r2r3r4r5r6r7r8r9q80r1r2r3r4r5r6r7r8r9q91r2r4r5r6r8p600r1r2r3r4r6r8r9q10r1r2r3r4r5",
     "r6r7r8r9q20r1r2r3r4r6r7r8r9q34r7r8q40r2r3r4r5r6r8r9q51r2r3r4r5r6r7r8r9q60r1r2r3r4"]),
   (0x10740, [
     "aLINEAR A SIGN A701 Ar2 Br3 Dr4 Er5 Fr6 Hr7 Jr8 Kr9 Ls-2 L2t3 L3t4 L4t6 L6q10 Wr1 Xr2 Y",
     "r3 OMEGAr4 ABBr5 BBr7 DDq26 EYYYq32 JE"]),
   (0x10760, ["aLINEAR A SIGN A800r1r2r3r4r5r6r7"]),
   (0x10780, [
     "aMODIFIER LETTER SMALL CAPITAL AArUPERSCRIPT TRIANGULAR COLON%HALF TRIANGULAR COLON",
     "rMALL AEwCAPITAL BwB WITH HOOK"]),
   (0x10787, [
     "aMODIFIER LETTER SMALL DZ DIGRAPH, WITH RETROFLEX HOOK=CURLxEZH DIGRAPHx WITH TAIL&HOOK",
     ". AND TAILwREVERSED EwCLOSED REVERSED OPEN EwFENG DIGRAPHwRAMS HORNwCAPITAL GwG WITH HOOK",
     "wCAPITAL G WITH HOOKwH WITH STROKEwCAPITAL HwHENG WITH HOOKwDOTLESS J WITH STROKE AND HOOK",
     "wLS DIGRAPHxZ DIGRAPHx WITH BELTwCAPITAL L WITH BELTwL WITH RETROFLEX HOOK AND BELTxEZH",
     "! WITH RETROFLEX HOOKwTURNED Y* WITH BELTwO WITH STROKEwCAPITAL OExLOSED OMEGAwQ",
     "wTURNED R WITH LONG LEG| AND RETROFLEX HOOKwR WITH TAIL&FISHHOOKwCAPITAL R",
     "wTC DIGRAPH WITH CURLxS DIGRAPH, WITH RETROFLEX HOOKxESH DIGRAPHx WITH RETROFLEX HOOK",
     "wV WITH RIGHT HOOK"]),
   (0x107b2, [
     "aMODIFIER LETTER SMALL CAPITAL YqGLOTTAL STOP WITH STROKE",
     "qREVERSED GLOTTAL STOP WITH STROKEqBILABIAL CLICKqDENTAL CLICKqLATERAL CLICK",
     "qALVEOLAR CLICKqRETROFLEX CLICK WITH RETROFLEX HOOKqSMALL S WITH CURL"]),
   (0x10800, ["aCYPRIOT SYLLABLE ArErIrOrUrJA"]),
   (0x10808, ["aCYPRIOT SYLLABLE JO"]),
   (0x1080a, [
     "aCYPRIOT SYLLABLE KAsEsIsOsUrLAsEsIsOsUrMAsEsIsOsUrNAsEsIsOsUrPAsEsIsOsUrRAsEsIsOsUrSAsEsI",
     "sOsUrTAsEsIsOsUrWAsEsIsO"]),
   (0x10837, ["aCYPRIOT SYLLABLE XAsE"]),
   (0x1083c, ["aCYPRIOT SYLLABLE ZA"]),
   (0x1083f, [
     "aCYPRIOT SYLLABLE ZOaIMPERIAL ARAMAIC LETTER ALEPHyBETHyGIMELyDALETHyHEyWAWyZAYINyHETH",
     "yTETHyYODHyKAPHyLAMEDHyMEMyNUNySAMEKHyAYINyPEySADHEyQOPHyRESHySHINyTAW"]),
   (0x10857, [
     "aIMPERIAL ARAMAIC SECTION SIGNrNUMBER ONEyTWOzHREEzENzWENTYyONE HUNDRED%THOUSAND",
     "yTEN THOUSANDaPALMYRENE LETTER ALEPHrBETHrGIMELrDALETHrHErWAWrZAYINrHETHrTETHrYODHrKAPH",
     "rLAMEDHrMEMrFINAL NUNrNUNrSAMEKHrAYINrPErSADHErQOPHrRESHrSHINrTAWmFT-POINTING FLEURON",
     "kRIGHT-POINTING FLEURONkNUMBER ONErTWOsHREErFOURsIVErTENsWENTY",
     "aNABATAEAN LETTER FINAL ALEPHrALEPHrFINAL BETHrBETHrGIMELrDALETHrFINAL HErHErWAWrZAYIN",
     "rHETHrTETHrFINAL YODHrYODHrFINAL KAPHrKAPHrFINAL LAMEDHrLAMEDHrFINAL MEMrMEMrFINAL NUNrNUN",
     "rSAMEKHrAYINrPErSADHErQOPHrRESHrFINAL SHINrSHINrTAW"]),
   (0x108a7, [
     "aNABATAEAN NUMBER ONErTWOsHREErFOURkCRUCIFORM NUMBER FOURkNUMBER FIVErTENsWENTY",
     "rONE HUNDRED"]),
   (0x108e0, [
     "aHATRAN LETTER ALEPHoBETHoGIMELoDALETH-RESHoHEoWAWoZAYNoHETHoTETHoYODHoKAPHoLAMEDHoMEMoNUN",
     "oSAMEKHoAYNoPEoSADHEoQOPH"]),
   (0x108f4, ["aHATRAN LETTER SHINoTAW"]),
   (0x108fb, [
     "aHATRAN NUMBER ONEoFIVEoTENpWENTYoONE HUNDREDaPHOENICIAN LETTER ALFsBETsGAMLsDELTsHEsWAU",
     "sZAIsHETsTETsYODsKAFsLAMDsMEMsNUNsSEMKsAINsPEsSADEsQOFsROSHsSHINsTAUlNUMBER ONEsTENtWENTY",
     "sONE HUNDREDsTWOtHREE"]),
   (0x1091f, [
     "aPHOENICIAN WORD SEPARATORaLYDIAN LETTER AoBoGoDoEoVoIoYoKoLoMoNoOoRoSSoToUoFoQoSoTToANoEN",
     "oLYoNNoC"]),
   (0x1093f, ["aLYDIAN TRIANGULAR MARK"]),
   (0x10980, [
     "aMEROITIC HIEROGLYPHIC LETTER A&E&I&O&YA&WA&BA+-2&PA&MA&NA+-2*E+-2&RA+-2&LA&KHA&HHA&SA+-2",
     "*E&KA&QA&TA+-2*E+-2*O&DAwSYMBOL VIDJ.-2jCURSIVE LETTER AyEyIyOyYAyWAyBAyPAyMAyNAzEyRAyLA",
     "yKHAyHHAySAyARCHAIC SAySEyKAyQAyTAzEzOyDA"]),
   (0x109bc, [
     "aMEROITIC CURSIVE FRACTION ELEVEN TWELFTHS!ONE HALFrLOGOGRAM RMT!IMNrNUMBER ONEyTWOzHREE",
     "yFOURzIVEySIXzEVENyEIGHTyNINEyTENzWENTYzHIRTYyFORTYzIFTYySIXTYzEVENTY"]),
   (0x109d2, [
     "aMEROITIC CURSIVE NUMBER ONE HUNDREDyTWO HUNDREDzHREE HUNDREDyFOUR HUNDREDzIVE HUNDRED",
     "ySIX HUNDREDzEVEN HUNDREDyEIGHT HUNDREDyNINE HUNDREDyONE THOUSANDyTWO THOUSAND",
     "zHREE THOUSANDyFOUR THOUSANDzIVE THOUSANDySIX THOUSANDzEVEN THOUSANDyEIGHT THOUSAND",
     "yNINE THOUSANDyTEN THOUSANDzWENTY THOUSANDzHIRTY THOUSANDyFORTY THOUSANDzIFTY THOUSAND",
     "ySIXTY THOUSANDzEVENTY THOUSANDyEIGHTY THOUSANDyNINETY THOUSANDyONE HUNDRED THOUSAND",
     "yTWO HUNDRED THOUSANDzHREE HUNDRED THOUSANDyFOUR HUNDRED THOUSANDzIVE HUNDRED THOUSAND",
     "ySIX HUNDRED THOUSANDzEVEN HUNDRED THOUSANDyEIGHT HUNDRED THOUSANDyNINE HUNDRED THOUSAND",
     "rFRACTION ONE TWELFTH!TWO TWELFTHS$HREE TWELFTHS!FOUR TWELFTHS$IVE TWELFTHS!SIX TWELFTHS",
     "$EVEN TWELFTHS!EIGHT TWELFTHS!NINE TWELFTHS!TEN TWELFTHSaKHAROSHTHI LETTER AlVOWEL SIGN I",
     "wUwVOCALIC R"]),
   (0x10a05, ["aKHAROSHTHI VOWEL SIGN EwO"]),
   (0x10a0c, [
     "aKHAROSHTHI VOWEL LENGTH MARKlSIGN DOUBLE RING BELOWqANUSVARAqVISARGAlLETTER KAtHAsGAtHA"]),
   (0x10a15, ["aKHAROSHTHI LETTER CAtHAsJA"]),
   (0x10a19, [
     "aKHAROSHTHI LETTER NYAsTTAuHAsDDAuHAsNNAsTAtHAsDAtHAsNAsPAtHAsBAtHAsMAsYAsRAsLAsVAsSHAtSA",
     "tAsZAsHAsKKAsTTTHAvAsVHA"]),
   (0x10a38, ["aKHAROSHTHI SIGN BAR ABOVEqCAUDAqDOT BELOW"]),
   (0x10a3f, [
     "aKHAROSHTHI VIRAMAlDIGIT ONErTWOsHREErFOURlNUMBER TENtWENTYsONE HUNDREDwTHOUSAND",
     "lFRACTION ONE HALF"]),
   (0x10a50, [
     "aKHAROSHTHI PUNCTUATION DOTxSMALL CIRCLExCIRCLEyRESCENT BARxMANGALAMxLOTUSxDANDA",
     "yOUBLE DANDAxLINES"]),
   (0x10a60, [
     "aOLD SOUTH ARABIAN LETTER HEzLAMEDHzHETHzMEMzQOPHzWAWzSHINzRESHzBETHzTAWzSATzKAPHzNUN",
     "zKHETHzSADHE$MEKHzFEzALEF!YNzDHADHEzGIMELzDALETHzGHAYNzTETHzZAYNzDHALETHzYODHzTHAW$ETH",
     "sNUMBER ONEzFIFTYvERIC INDICATOReNORTH ARABIAN LETTER HEHzLAMzHAHzMEEMzQAFzWAWzES-2zREH",
     "zBEHzTEHzES-1zKAFzNOONzKHAHzSADzES-3zFEHzALEF!INzDADzGEEMzDALzGHAINzTAHzZAINzTHALzYEHzTHEH",
     "zZAHsNUMBER ONEzTEN!WENTY"]),
   (0x10ac0, [
     "aMANICHAEAN LETTER ALEPHsBETHtHETHsGIMELtHIMELsDALETHsHEsWAWlSIGN UDlLETTER ZAYINtHAYIN",
     "sJAYINtHAYINsHETHsTETHsYODHsKAPHsXAPHsKHAPHsLAMEDHsDHAMEDHsTHAMEDHsMEMsNUNsSAMEKHsAYIN",
     "tAYINsPEsFEsSADHEsQOPHsXOPHsQHOPHsRESHsSHINtSHINsTAWlABBREVIATION MARK ABOVE&BELOW"]),
   (0x10aeb, [
     "aMANICHAEAN NUMBER ONEsFIVEsTENtWENTYsONE HUNDREDlPUNCTUATION STARxFLEURON",
     "xDOUBLE DOT WITHIN DOTzT WITHIN DOT!xTWO DOTSxLINE FILLER"]),
   (0x10b00, [
     "aAVESTAN LETTER AqAqOqAOqNqANqErEpEqEpOqOpIqIpUqUpKEpXEqYEqVEpGEqGEqHEpCEpJEpTEqHEpDEqHE",
     "pTTEpPEpFEpBEqHEpNGErYErVEqEqYEqNEpMEpHMEpYYEqEpVEpREpLEpSEpZEpSHEpZHEpSHYEqSHEpHE"]),
   (0x10b39, [
     "aAVESTAN ABBREVIATION MARKaTINY TWO DOTS OVER ONE DOT PUNCTUATION",
     "aSMALL TWO DOTS OVER ONE DOT PUNCTUATIONaLARGE TWO DOTS OVER ONE DOT PUNCTUATION",
     "gONE DOT OVER TWO DOTS PUNCTUATIONgTWO RINGS OVER ONE RING PUNCTUATION",
     "gONE RING OVER TWO RINGS PUNCTUATIONaINSCRIPTIONAL PARTHIAN LETTER ALEPH*BETH*GIMEL*DALETH",
     "*HE*WAW*ZAYIN*HETH*TETH*YODH*KAPH*LAMEDH*MEM*NUN*SAMEKH*AYIN*PE*SADHE*QOPH*RESH*SHIN*TAW"]),
   (0x10b58, [
     "aINSCRIPTIONAL PARTHIAN NUMBER ONE*TWO+HREE*FOUR*TEN+WENTY*ONE HUNDRED/THOUSAND",
     "qHLAVI LETTER ALEPH&BETH&GIMEL&DALETH&HE&WAW-AYIN-RESH&ZAYIN&HETH&TETH&YODH&KAPH&LAMEDH",
     "&MEM-QOPH&NUN&SAMEKH&PE&SADHE*HIN&TAW"]),
   (0x10b78, [
     "aINSCRIPTIONAL PAHLAVI NUMBER ONE&TWO*HREE&FOUR&TEN*WENTY&ONE HUNDRED.THOUSAND",
     "aPSALTER PAHLAVI LETTER ALEPHxBETHxGIMELxDALETHxHExWAW-AYIN-RESHxZAYINxHETHxYODHxKAPH",
     "xLAMEDHxMEM-QOPHxNUNxSAMEKHxPExSADHEyHINxTAW"]),
   (0x10b99, ["aPSALTER PAHLAVI SECTION MARKqTURNED SECTION MARKqFOUR DOTS WITH CROSS+DOT"]),
   (0x10ba9, ["aPSALTER PAHLAVI NUMBER ONExTWOyHREExFOURxTENyWENTYxONE HUNDRED"]),
   (0x10c00, [
     "aOLD TURKIC LETTER ORKHON AsYENISEI A$EsORKHON IsYENISEI I!EsORKHON O!EsYENISEI OE",
     "sORKHON ABsYENISEI ABsORKHON AEBsYENISEI AEBsORKHON AGsYENISEI AGsORKHON AEGsYENISEI AEG",
     "sORKHON ADsYENISEI ADsORKHON AEDzEZsYENISEI EZsORKHON AYsYENISEI AYsORKHON AEYsYENISEI AEY",
     "sORKHON AEKsYENISEI AEKsORKHON OEKsYENISEI OEKsORKHON ALsYENISEI ALsORKHON AELzELT!MzAN!EN",
     "sYENISEI AENsORKHON ENTsYENISEI ENTsORKHON ENCsYENISEI ENCsORKHON ENYsYENISEI ENY!ANG",
     "sORKHON ENGsYENISEI AENGsORKHON EPzOPzICzECsYENISEI ECsORKHON AQsYENISEI AQsORKHON IQ",
     "sYENISEI IQsORKHON OQsYENISEI OQsORKHON ARsYENISEI ARsORKHON AER!S!ES!SHsYENISEI ASH",
     "sORKHON ESHsYENISEI ESHsORKHON ATsYENISEI ATsORKHON AETsYENISEI AETsORKHON OTzBASH"]),
   (0x10c80, [
     "aOLD HUNGARIAN CAPITAL LETTER A*A&EB&AMB&EC*NC*CS*D&AND&E&CLOSE E&EE*F*G+Y*H&I*I&EJ*K&AK",
     "&UNK&EL+Y*M*N+Y&O*O&NIKOLSBURG OE&RUDIMENTA OE&OEE&EP*MP*R&SHORT ER&ES+Z*T*NT*TY*CH&U*U",
     "&NIKOLSBURG UE&RUDIMENTA UE&EV*Z+S*NT-SHAPED SIGN&US"]),
   (0x10cc0, [
     "aOLD HUNGARIAN SMALL LETTER A%A$EB$AMB$EC%NC%CS%D$AND$E$CLOSE E$EE%F%G&Y%H$I%I$EJ%K$AK$UNK",
     "$EL&Y%M%N&Y$O%O$NIKOLSBURG OE$RUDIMENTA OE$OEE$EP%MP%R$SHORT ER$ES&Z%T%NT%TY%CH$U%U",
     "$NIKOLSBURG UE$RUDIMENTA UE$EV%Z&S%NT-SHAPED SIGN$US"]),
   (0x10cfa, [
     "aOLD HUNGARIAN NUMBER ONEvFIVEvTENvFIFTYvONE HUNDREDzTHOUSANDaHANIFI ROHINGYA LETTER AxBA",
     "xPAxTAyTAxJAxCAxHAxKHAxFAxDAyDAxRAyRAxZAxSAyHAxKAxGAxLAxMAxNAxWAxKINNA WAxYAxKINNA YAxNGA",
     "yYAxVAqVOWEL AwIwUwEwOqMARK SAKINvNA KHONNAqSIGN HARBAHAYvTAHALAxNAxSSI"]),
   (0x10d30, ["aHANIFI ROHINGYA DIGIT ZEROwONEwTWOxHREEwFOURxIVEwSIXxEVENwEIGHTwNINE"]),
   (0x10e60, [
     "aRUMI DIGIT ONElTWOmHREElFOURmIVElSIXmEVENlEIGHTlNINEfNUMBER TENnWENTYnHIRTYmFORTYnIFTY",
     "mSIXTYnEVENTYmEIGHTYmNINETYmONE HUNDREDmTWO HUNDREDnHREE HUNDREDmFOUR HUNDREDnIVE HUNDRED",
     "mSIX HUNDREDnEVEN HUNDREDmEIGHT HUNDREDmNINE HUNDREDfFRACTION ONE HALFsQUARTERsTHIRD",
     "oTWO THIRDS"]),
   (0x10e80, [
     "aYEZIDI LETTER ELIFoBEoPEpHEoTHEoSEoCIMpHIMqHIMoHHAoXAoDALoZALoRApHAoZAoJAoSINpHINpADoDAD",
     "oTAoZEoEYNoXHEYNoFAoVAq ALTERNATE FORMoQAFoKAFpHAFoGAFoLAMoMIMoNUNoUMoWAWoOWoEWoHAYoYOToET"]),
   (0x10eab, ["aYEZIDI COMBINING HAMZA MARKrMADDA MARKhHYPHENATION MARK"]),
   (0x10eb0, ["aYEZIDI LETTER LAM WITH DOT ABOVEoYOT WITH CIRCUMFLEX ABOVE"]),
   (0x10f00, [
     "aOLD SOGDIAN LETTER ALEPHtFINAL ALEPHtBETHtFINAL BETHtGIMELtHEtFINAL HEtWAWtZAYINtHETH",
     "tYODHtKAPHtLAMEDHtMEMtNUNtFINAL NUN% WITH VERTICAL TAILtSAMEKHtAYINuLTERNATE AYINtPEtSADHE",
     "tFINAL SADHE* WITH VERTICAL TAILtRESH-AYIN-DALETHtSHINtTAWtFINAL TAW% WITH VERTICAL TAIL",
     "mNUMBER ONEtTWOuHREEtFOURuIVEtTENuWENTYuHIRTYtONE HUNDREDmFRACTION ONE HALF",
     "mLIGATURE AYIN-DALETH"]),
   (0x10f30, [
     "aSOGDIAN LETTER ALEPHpBETHpGIMELpHEpWAWpZAYINpHETHpYODHpKAPHpLAMEDHpMEMpNUNpSAMEKHpAYINpPE",
     "pSADHEpRESH-AYINpSHINpTAWpFETHpLESHiINDEPENDENT SHINiCOMBINING DOT BELOWsTWO DOTS BELOW",
     "sDOT ABOVEsTWO DOTS ABOVEsCURVE ABOVEyBELOWsHOOK ABOVExBELOWsLONG HOOK BELOWsRESH BELOW",
     "sSTROKE BELOWiNUMBER ONEpTENqWENTYpONE HUNDREDiPUNCTUATION TWO VERTICAL BARS< WITH DOTS",
     "uCIRCLE WITH DOTuTWO CIRCLES WITH DOTSuHALF CIRCLE WITH DOT"]),
   (0x10f70, [
     "aOLD UYGHUR LETTER ALEPHsBETHsGIMEL-HETHsWAWsZAYINsFINAL HETHsYODHsKAPHsLAMEDHsMEMsNUN",
     "sSAMEKHsPEsSADHEsRESHsSHINsTAWsLESHlCOMBINING DOT ABOVEzBELOWvTWO DOTS ABOVE*BELOW",
     "lPUNCTUATION BARxTWO BARS$DOTSxFOUR DOTS"]),
   (0x10fb0, [
     "aCHORASMIAN LETTER ALEPHsSMALL ALEPHsBETHsGIMELsDALETHsHEsWAWsCURLED WAWsZAYINsHETHsYODH",
     "sKAPHsLAMEDHsMEMsNUNsSAMEKHsAYINsPEsRESHsSHINsTAWlNUMBER ONEsTWOtHREEsFOURsTENtWENTY",
     "sONE HUNDRED"]),
   (0x10fe0, [
     "aELYMAIC LETTER ALEPHpBETHpGIMELpDALETHpHEpWAWpZAYINpHETHpTETHpYODHpKAPHpLAMEDHpMEMpNUN",
     "pSAMEKHpAYINpPEpSADHEpQOPHpRESHpSHINpTAWjIGATURE ZAYIN-YODH"]),
   (0x11000, [
     "aBRAHMI SIGN CANDRABINDUmANUSVARAmVISARGAmJIHVAMULIYAmUPADHMANIYAhLETTER ApAoIpIoUpU",
     "oVOCALIC RxRwLxLoEoAIoOoAUoKApHAoGApHAoNGAoCApHAoJApHAoNYAoTTAqHAoDDAqHAoNNAoTApHAoDApHA",
     "oNAoPApHAoBApHAoMAoYAoRAoLAoVAoSHApSApAoHAoLLAoOLD TAMIL LLLAyRRAyNNNAhVOWEL SIGN AA",
     "sBHATTIPROLU AAsItIsUtUsVOCALIC R$R!L$LsEsAIsOsAUiIRAMAhDANDAiOUBLE DANDAhPUNCTUATION DOT",
     "vUBLE DOTtLINEtCRESCENT BARtLOTUS"]),
   (0x11052, [
     "aBRAHMI NUMBER ONEoTWOpHREEoFOURpIVEoSIXpEVENoEIGHToNINEoTENpWENTYpHIRTYoFORTYpIFTYoSIXTY",
     "pEVENTYoEIGHTYoNINETYoONE HUNDREDsTHOUSANDhDIGIT ZEROnONEnTWOoHREEnFOURoIVEnSIXoEVENnEIGHT",
     "nNINEhSIGN OLD TAMIL VIRAMAhLETTER OLD TAMIL SHORT E*OhVOWEL SIGN OLD TAMIL SHORT E/O",
     "hLETTER OLD TAMIL LLA"]),
   (0x1107f, [
     "aBRAHMI NUMBER JOINERaKAITHI SIGN CANDRABINDUmANUSVARAmVISARGAhLETTER ApAoIpIoUpUoEoAIoO",
     "oAUoKApHAoGApHAoNGAoCApHAoJApHAoNYAoTTAqHAoDDAqDHAqHAoRHAoNNAoTApHAoDApHAoNAoPApHAoBApHA",
     "oMAoYAoRAoLAoVAoSHApSApAoHAhVOWEL SIGN AAsItIsUtUsEsAIsOsAUhSIGN VIRAMAmNUKTA",
     "hABBREVIATION SIGNhENUMERATION SIGNhNUMBER SIGNhSECTION MARKhDOUBLE SECTION MARKiANDA",
     "iOUBLE DANDAhVOWEL SIGN VOCALIC R"]),
   (0x110cd, ["aKAITHI NUMBER SIGN ABOVE"]),
   (0x110d0, [
     "aSORA SOMPENG LETTER SAHuTAHuBAHuCAHuDAHuGAHuMAHuNGAHuLAHuNAHuVAHuPAHuYAHuRAHuHAHuKAHuJAH",
     "uNYAHuAHuEEHuIHuUHuOHuEHuMAE"]),
   (0x110f0, ["aSORA SOMPENG DIGIT ZEROtONEtTWOuHREEtFOURuIVEtSIXuEVENtEIGHTtNINE"]),
   (0x11100, [
     "aCHAKMA SIGN CANDRABINDUmANUSVARAmVISARGAhLETTER AAoIoUoEoKAApHAAoGAApHAAoNGAAoCAApHAAoJAA",
     "pHAAoNYAAoTTAAqHAAoDDAAqHAAoNNAAoTAApHAAoDAApHAAoNAAoPAApHAAoBAApHAAoMAAoYYAApAAoRAAoLAA",
     "oWAAoSAAoHAAhVOWEL SIGN AsItIsUtUsEsAIsOsAUsOIhO MARKhAU MARKhVIRAMAhMAAYYAA"]),
   (0x11136, [
     "aCHAKMA DIGIT ZEROnONEnTWOoHREEnFOURoIVEnSIXoEVENnEIGHTnNINEhSECTION MARKhDANDA",
     "iOUBLE DANDAhQUESTION MARKhLETTER LHAAhVOWEL SIGN AAsEIhLETTER VAA"]),
   (0x11150, [
     "aMAHAJANI LETTER AqIqUqEqOqKArHAqGArHAqCArHAqJArHAqNYAqTTAsHAqDDAsHAqNNAqTArHAqDArHAqNAqPA",
     "rHAqBArHAqMAqRAqLAqVAqSAqHAqRRAjSIGN NUKTAjABBREVIATION SIGNjSECTION MARKjLIGATURE SHRI"]),
   (0x11180, [
     "aSHARADA SIGN CANDRABINDUnANUSVARAnVISARGAiLETTER AqApIqIpUqUpVOCALIC RyRxLyLpEpAIpOpAUpKA",
     "qHApGAqHApNGApCAqHApJAqHApNYApTTArHApDDArHApNNApTAqHApDAqHApNApPAqHApBAqHApMApYApRApLAqLA",
     "pVApSHAqSAqApHAiVOWEL SIGN AAtIuItUuUtVOCALIC R%R$L%LtEtAItOtAUiSIGN VIRAMAnAVAGRAHA",
     "nJIHVAMULIYAnUPADHMANIYAiOMiDANDAjOUBLE DANDAiABBREVIATION SIGNiSEPARATORjANDHI MARK",
     "jIGN NUKTAiVOWEL MODIFIER MARKiEXTRA SHORT VOWEL MARKiSUTRA MARK",
     "iVOWEL SIGN PRISHTHAMATRA EiSIGN INVERTED CANDRABINDUiDIGIT ZEROoONEoTWOpHREEoFOURpIVEoSIX",
     "pEVENoEIGHToNINEiEKAMiSIGN SIDDHAMiHEADSTROKEiCONTINUATION SIGNiSECTION MARK-1v2"]),
   (0x111e1, [
     "aSINHALA ARCHAIC DIGIT ONEwTWOxHREEwFOURxIVEwSIXxEVENwEIGHTwNINEqNUMBER TENyWENTYyHIRTY",
     "xFORTYyIFTYxSIXTYyEVENTYxEIGHTYxNINETYxONE HUNDRED$THOUSAND"]),
   (0x11200, ["aKHOJKI LETTER ApAoIoUoEoAIoOoAUoKApHAoGApGApHAoNGAoCApHAoJApJA"]),
   (0x11213, [
     "aKHOJKI LETTER NYAoTTAqHAoDDAqHAoNNAoTApHAoDApDDApHAoNAoPApHAoBApBApHAoMAoYAoRAoLAoVAoSA",
     "oHAoLLAhVOWEL SIGN AAsItIsUsEsAIsOsAUhSIGN ANUSVARAmVIRAMAmNUKTAmSHADDAhDANDAiOUBLE DANDA",
     "hWORD SEPARATORhSECTION MARKhDOUBLE SECTION MARKhABBREVIATION SIGNhSIGN SUKUN"]),
   (0x11280, ["aMULTANI LETTER ApIpUpEpKAqHApGA"]),
   (0x11288, ["aMULTANI LETTER GHA"]),
   (0x1128a, ["aMULTANI LETTER CAqHApJAqJA"]),
   (0x1128f, ["aMULTANI LETTER NYApTTArHApDDArDArHApNNApTAqHApDAqHApNApPAqHApBA"]),
   (0x1129f, ["aMULTANI LETTER BHApMApYApRApLApVApSApHApRRAqHAiSECTION MARK"]),
   (0x112b0, [
     "aKHUDAWADI LETTER AsArIsIrUsUrErAIrOrAUrKAsHArGAsGAsHArNGArCAsHArJAsJAsHArNYArTTAtHArDDA",
     "tDArRRArDDHArNNArTAsHArDAsHArNArPAsHArBAsBAsHArMArYArRArLArVArSHAsArHAkSIGN ANUSVARA",
     "kVOWEL SIGN AAvIwIvUwUvEvAIvOvAUkSIGN NUKTApVIRAMA"]),
   (0x112f0, ["aKHUDAWADI DIGIT ZEROqONEqTWOrHREEqFOURrIVEqSIXrEVENqEIGHTqNINE"]),
   (0x11300, ["aGRANTHA SIGN COMBINING ANUSVARA ABOVEoANDRABINDUnANUSVARAnVISARGA"]),
   (0x11305, ["aGRANTHA LETTER AqApIqIpUqUpVOCALIC RxL"]),
   (0x1130f, ["aGRANTHA LETTER EEpAI"]),
   (0x11313, [
     "aGRANTHA LETTER OOpAUpKAqHApGAqHApNGApCAqHApJAqHApNYApTTArHApDDArHApNNApTAqHApDAqHApNA"]),
   (0x1132a, ["aGRANTHA LETTER PAqHApBAqHApMApYApRA"]),
   (0x11332, ["aGRANTHA LETTER LAqLA"]),
   (0x11335, ["aGRANTHA LETTER VApSHAqSAqApHA"]),
   (0x1133b, [
     "aCOMBINING BINDU BELOWaGRANTHA SIGN NUKTAnAVAGRAHAiVOWEL SIGN AAtIuItUuUtVOCALIC R%R"]),
   (0x11347, ["aGRANTHA VOWEL SIGN EEtAI"]),
   (0x1134b, ["aGRANTHA VOWEL SIGN OOtAUiSIGN VIRAMA"]),
   (0x11350, ["aGRANTHA OM"]),
   (0x11357, ["aGRANTHA AU LENGTH MARK"]),
   (0x1135d, [
     "aGRANTHA SIGN PLUTAiLETTER VEDIC ANUSVARAvDOUBLE ANUSVARAqOCALIC RRxLL",
     "iVOWEL SIGN VOCALIC L%L"]),
   (0x11366, ["aCOMBINING GRANTHA DIGIT ZEROyONEyTWOzHREEyFOURzIVEySIX"]),
   (0x11370, ["aCOMBINING GRANTHA LETTER AzKAzNAzVIzPA"]),
   (0x11400, [
     "aNEWA LETTER AnAmInImUnUmVOCALIC RvRuLvLmEmAImOmAUmKAnHAmGAnHAmNGAoHAmCAnHAmJAnHAmNYAoHA",
     "mTTAoHAmDDAoHAmNNAmTAnHAmDAnHAmNAnHAmPAnHAmBAnHAmMAnHAmYAmRAnHAmLAnHAmWAmSHAnSAnAmHA",
     "fVOWEL SIGN AAqIrIqUrUqVOCALIC RzRyLzLqEqAIqOqAUfSIGN VIRAMAkCANDRABINDUkANUSVARAkVISARGA",
     "kNUKTAkAVAGRAHAkFINAL ANUSVARAfOMfSIDDHIfDANDAgOUBLE DANDAfCOMMAfGAP FILLER",
     "fABBREVIATION SIGNfDIGIT ZEROlONElTWOmHREElFOURmIVElSIXmEVENlEIGHTlNINEgOUBLE COMMA",
     "fPLACEHOLDER MARK"]),
   (0x1145d, [
     "aNEWA INSERTION SIGNfSANDHI MARKfLETTER VEDIC ANUSVARAfSIGN JIHVAMULIYAkUPADHMANIYA"]),
   (0x11480, [
     "aTIRHUTA ANJIiLETTER AqApIqIpUqUpVOCALIC RyRxLyLpEpAIpOpAUpKAqHApGAqHApNGApCAqHApJAqHApNYA",
     "pTTArHApDDArHApNNApTAqHApDAqHApNApPAqHApBAqHApMApYApRApLApVApSHAqSAqApHAiVOWEL SIGN AAtIuI",
     "tUuUtVOCALIC R%R$L%LtEtSHORT EtAItOtSHORT OtAUiSIGN CANDRABINDUnANUSVARAnVISARGApRAMA",
     "nNUKTAnAVAGRAHAiGVANGiABBREVIATION SIGNiOM"]),
   (0x114d0, ["aTIRHUTA DIGIT ZEROoONEoTWOpHREEoFOURpIVEoSIXpEVENoEIGHToNINE"]),
   (0x11580, [
     "aSIDDHAM LETTER AqApIqIpUqUpVOCALIC RyRxLyLpEpAIpOpAUpKAqHApGAqHApNGApCAqHApJAqHApNYApTTA",
     "rHApDDArHApNNApTAqHApDAqHApNApPAqHApBAqHApMApYApRApLApVApSHAqSAqApHAiVOWEL SIGN AAtIuItUuU",
     "tVOCALIC R%R"]),
   (0x115b8, [
     "aSIDDHAM VOWEL SIGN EtAItOtAUiSIGN CANDRABINDUnANUSVARAnVISARGApRAMAnNUKTAnSIDDHAMiDANDA",
     "jOUBLE DANDAiSEPARATOR DOTsBARiREPETITION MARK-1y2y3iEND OF TEXT MARK",
     "iSECTION MARK WITH TRIDENT AND U-SHAPED ORNAMENTS=DOTTED CRESCENTS",
     "!RAYS AND DOTTED CRESCENTS^DOUBLE CRESCENTS^TRIPLE CRESCENTSvDOUBLE RING, WITH RAYS",
     "vWITH DOUBLE CRESCENTS!TRIPLE CRESCENTS!QUADRUPLE CRESCENTS!SEPTUPLE CRESCENTS",
     "!CIRCLES AND RAYS=TWO ENCLOSURES=FOUR ENCLOSURESiLETTER THREE-CIRCLE ALTERNATE I",
     "qWO-CIRCLE ALTERNATE I<IpALTERNATE UiVOWEL SIGN ALTERNATE U*U"]),
   (0x11600, [
     "aMODI LETTER AnAmInImUnUmVOCALIC RvRuLvLmEmAImOmAUmKAnHAmGAnHAmNGAmCAnHAmJAnHAmNYAmTTAoHA",
     "mDDAoHAmNNAmTAnHAmDAnHAmNAmPAnHAmBAnHAmMAmYAmRAmLAmVAmSHAnSAnAmHAmLLAfVOWEL SIGN AAqIrIqU",
     "rUqVOCALIC RzRyLzLqEqAIqOqAUfSIGN ANUSVARAkVISARGAmRAMAkARDHACANDRAfDANDAgOUBLE DANDA",
     "fABBREVIATION SIGNfSIGN HUVA"]),
   (0x11650, ["aMODI DIGIT ZEROlONElTWOmHREElFOURmIVElSIXmEVENlEIGHTlNINE"]),
   (0x11660, [
     "aMONGOLIAN BIRGA WITH ORNAMENTkROTATED BIRGAkDOUBLE BIRGA WITH ORNAMENT",
     "kTRIPLE BIRGA WITH ORNAMENTkBIRGA WITH DOUBLE ORNAMENTkROTATED BIRGA WITH ORNAMENT",
     "&DOUBLE ORNAMENTkINVERTED BIRGAy WITH DOUBLE ORNAMENTkSWIRL BIRGAv WITH ORNAMENT",
     "$DOUBLE ORNAMENTkTURNED SWIRL BIRGA WITH DOUBLE ORNAMENT"]),
   (0x11680, [
     "aTAKRI LETTER AoAnIoInUoUnEnAInOnAUnKAoHAnGAoHAnNGAnCAoHAnJAoHAnNYAnTTApHAnDDApHAnNNAnTA",
     "oHAnDAoHAnNAnPAoHAnBAoHAnMAnYAnRAnLAnVAnSHAoAnHAnRRAgSIGN ANUSVARAlVISARGAgVOWEL SIGN AArI",
     "sIrUsUrErAIrOrAUgSIGN VIRAMAlNUKTAgLETTER ARCHAIC KHAgABBREVIATION SIGN"]),
   (0x116c0, ["aTAKRI DIGIT ZEROmONEmTWOnHREEmFOURnIVEmSIXnEVENmEIGHTmNINE"]),
   (0x11700, [
     "aAHOM LETTER KAnHAmNGAnAmTAmALTERNATE TAmPAnHAmBAmMAmJAmCHAmTHAmRAmLAmSAmNYAmHAmAmDAnHAmGA",
     "mALTERNATE GAmGHAmBHAmJHAmALTERNATE BA"]),
   (0x1171d, [
     "aAHOM CONSONANT SIGN MEDIAL LA$RA$LIGATING RAfVOWEL SIGN ArAqIrIqUrUqEqAWqOqAIrM",
     "fSIGN KILLER"]),
   (0x11730, [
     "aAHOM DIGIT ZEROlONElTWOmHREElFOURmIVElSIXmEVENlEIGHTlNINEfNUMBER TENnWENTY",
     "fSIGN SMALL SECTIONlECTIONkRULAIgYMBOL VIfLETTER CAmTTAoHAmDDAoHAmNNAmLLA"]),
   (0x11800, [
     "aDOGRA LETTER AoAnIoInUoUnEnAInOnAUnKAoHAnGAoHAnNGAnCAoHAnJAoHAnNYAnTTApHAnDDApHAnNNAnTA",
     "oHAnDAoHAnNAnPAoHAnBAoHAnMAnYAnRAnLAnVAnSHAoSAoAnHAnRRAgVOWEL SIGN AArIsIrUsUrVOCALIC R!R",
     "rErAIrOrAUgSIGN ANUSVARAlVISARGAnRAMAlNUKTAgABBREVIATION SIGN"]),
   (0x118a0, [
     "aWARANG CITI CAPITAL LETTER NGAA$A$WI$YU%A%O$II$UU$E$O$ANG$GA$KO$ENY$YUJ$UC$ENN$ODD$TTE",
     "$NUNG$DA$AT%M$BU$PU$HIYO%OLO&RR%AR$SSUU%II$VIYOmSMALL LETTER NGAAzAzWIzYU!A!OzIIzUUzEzO",
     "zANGzGAzKOzENYzYUJzUCzENNzODDzTTEzNUNGzDAzAT!MzBUzPUzHIYO!OLO$RR!ARzSSUU!IIzVIYO",
     "mDIGIT ZEROsONEsTWOtHREEsFOURtIVEsSIXtEVENsEIGHTsNINEmNUMBER TENuWENTYuHIRTYtFORTYuIFTY",
     "tSIXTYuEVENTYtEIGHTYtNINETY"]),
   (0x118ff, ["aWARANG CITI OMaDIVES AKURU LETTER AuAtIuItUuUtE"]),
   (0x11909, ["aDIVES AKURU LETTER O"]),
   (0x1190c, ["aDIVES AKURU LETTER KAuHAtGAuHAtNGAtCAuHAtJA"]),
   (0x11915, ["aDIVES AKURU LETTER NYAtTTA"]),
   (0x11918, [
     "aDIVES AKURU LETTER DDAvHAtNNAtTAuHAtDAuHAtNAtPAuHAtBAuHAtMAtYAuYAtRAtLAtVAtSHAuSAuAtHA",
     "tLLAtZAmVOWEL SIGN AAxIyIxUyUxE"]),
   (0x11937, ["aDIVES AKURU VOWEL SIGN AIxO"]),
   (0x1193b, [
     "aDIVES AKURU SIGN ANUSVARArCANDRABINDUrHALANTAmVIRAMAmPREFIXED NASAL SIGNmMEDIAL YA",
     "mINITIAL RAmMEDIAL RAmSIGN NUKTAmDOUBLE DANDAmGAP FILLERmEND OF TEXT MARK"]),
   (0x11950, ["aDIVES AKURU DIGIT ZEROsONEsTWOtHREEsFOURtIVEsSIXtEVENsEIGHTsNINE"]),
   (0x119a0, ["aNANDINAGARI LETTER AuAtIuItUuUtVOCALIC R%R"]),
   (0x119aa, [
     "aNANDINAGARI LETTER EtAItOtAUtKAuHAtGAuHAtNGAtCAuHAtJAuHAtNYAtTTAvHAtDDAvHAtNNAtTAuHAtDA",
     "uHAtNAtPAuHAtBAuHAtMAtYAtRAtLAtVAtSHAuSAuAtHAtLLAtRRAmVOWEL SIGN AAxIyIxUyUxVOCALIC R,R"]),
   (0x119da, [
     "aNANDINAGARI VOWEL SIGN ExAIxOxAUmSIGN ANUSVARArVISARGAtRAMArAVAGRAHArSIDDHAMmHEADSTROKE",
     "mVOWEL SIGN PRISHTHAMATRA E"]),
   (0x11a00, [
     "aZANABAZAR SQUARE LETTER ArVOWEL SIGN I%UE&%E%OE&%AI&U%REVERSED IxLENGTH MARKrLETTER KAzHA",
     "yGAzHAyNGAyCAzHAyJAyNYAyTTA!HAyDDA!HAyNNAyTAzHAyDAzHAyNAyPAzHAyBAzHAyMAyTSA!HAyDZA!HAyZHA",
     "zAy-AyYAyRAyLAyVAySHAzSAzAyHAyKSSArFINAL CONSONANT MARKrSIGN VIRAMAwCANDRABINDU",
     ". WITH ORNAMENT% WITH ORNAMENTwANUSVARAwVISARGArCLUSTER-INITIAL LETTER RAzFINAL LETTER YA",
     "=RA=LA=VArINITIAL HEAD MARKrCLOSING HEAD MARKrMARK TSHEGwSHADwDOUBLE SHADwLONG TSHEG",
     "rINITIAL DOUBLE-LINED HEAD MARKrCLOSING DOUBLE-LINED HEAD MARKrSUBJOINER"]),
   (0x11a50, [
     "aSOYOMBO LETTER AiVOWEL SIGN ItUEutEtOuEtAIuUtVOCALIC R$LoLENGTH MARKiLETTER KAqHApGAqHA",
     "pNGApCAqHApJAqHApNYApTTArHApDDArHApNNApTAqHApDAqHApNApPAqHApBAqHApMApTSArHApDZApZHAqAp-A",
     "pYApRApLApVApSHAqSAqApHApKSSAiSIGN JIHVAMULIYAnUPADHMANIYAiCLUSTER-INITIAL LETTER RA+LA",
     "+SHA,AiFINAL CONSONANT SIGN G&K&NG&D&N&B&M&R&L&SH*&-AiSIGN ANUSVARAnVISARGA",
     "iGEMINATION MARKiSUBJOINERiMARK TSHEGnSHADnDOUBLE SHADnPLUTA",
     "iHEAD MARK WITH MOON AND SUN AND TRIPLE FLAME?FLAME:iTERMINAL MARK-1w2"]),
   (0x11ab0, [
     "aCANADIAN SYLLABICS NATTILIK HI*I&O*O&A*A%SHRI,I+O,O+A,AtSPEvIvOvAaPAU CIN HAU LETTER PA",
     "tKAtLAtMAtDAtZAtVAtNGAtHAtGAtKHAtSAtBAtCAtTAuHAtNAtPHAtRAtFAtCHAtAtEtItOtUuAtIAtFINAL PzK",
     "zTzMzNzLzWzNGzYmRISING TONE LONGxmSANDHI GLOTTAL STOPmRISING TONE LONG FINALyFINAL",
     "mSANDHI GLOTTAL STOP FINALtTONE LONGxx LONG FINALyFINALmMID-LEVEL TONE",
     "mGLOTTAL STOP VARIANTmMID-LEVEL TONE LONG FINAL$FINALmLOW-FALLING TONE LONG%mGLOTTAL STOP",
     "mLOW-FALLING TONE LONG FINAL&FINALmGLOTTAL STOP FINAL"]),
   (0x11c00, ["aBHAIKSUKI LETTER AsArIsIrUsUrVOCALIC R!RzL"]),
   (0x11c0a, [
     "aBHAIKSUKI LETTER ErAIrOrAUrKAsHArGAsHArNGArCAsHArJAsHArNYArTTAtHArDDAtHArNNArTAsHArDAsHA",
     "rNArPAsHArBAsHArMArYArRArLArVArSHAsSAsArHAkVOWEL SIGN AAvIwIvUwUvVOCALIC R*R&L"]),
   (0x11c38, [
     "aBHAIKSUKI VOWEL SIGN EvAIvOvAUkSIGN CANDRABINDUpANUSVARApVISARGArRAMApAVAGRAHAkDANDA",
     "lOUBLE DANDAkWORD SEPARATORkGAP FILLER-1v2"]),
   (0x11c50, [
     "aBHAIKSUKI DIGIT ZEROqONEqTWOrHREEqFOURrIVEqSIXrEVENqEIGHTqNINEkNUMBER ONErTWOsHREErFOUR",
     "sIVErSIXsEVENrEIGHTrNINErTENsWENTYsHIRTYrFORTYsIFTYrSIXTYsEVENTYrEIGHTYrNINETY",
     "kHUNDREDS UNIT MARK"]),
   (0x11c70, [
     "aMARCHEN HEAD MARKiMARK SHADiLETTER KAqHApGApNGApCAqHApJApNYApTAqHApDApNApPAqHApBApMApTSA",
     "rHApDZApWApZHAqAp-ApYApRApLApSHAqApHApA"]),
   (0x11c92, [
     "aMARCHEN SUBJOINED LETTER KA!HAzGAzNGAzCA!HAzJAzNYAzTA!HAzDAzNAzPA!HAzBAzMAzTSA$HAzDZAzWA",
     "zZHA!A"]),
   (0x11ca9, [
     "aMARCHEN SUBJOINED LETTER YAzRAzLAzSHA!AzHAzAiVOWEL SIGN AAtItUtEtOiSIGN ANUSVARA",
     "nCANDRABINDU"]),
   (0x11d00, ["aMASARAM GONDI LETTER AwAvIwIvUwUvE"]),
   (0x11d08, ["aMASARAM GONDI LETTER AIvO"]),
   (0x11d0b, [
     "aMASARAM GONDI LETTER AUvKAwHAvGAwHAvNGAvCAwHAvJAwHAvNYAvTTAxHAvDDAxHAvNNAvTAwHAvDAwHAvNA",
     "vPAwHAvBAwHAvMAvYAvRAvLAvVAvSHAwSAwAvHAvLLAvKSSAvJNYAvTRAoVOWEL SIGN AAzI!IzU!UzVOCALIC R"]),
   (0x11d3a, ["aMASARAM GONDI VOWEL SIGN E"]),
   (0x11d3c, ["aMASARAM GONDI VOWEL SIGN AIzO"]),
   (0x11d3f, [
     "aMASARAM GONDI VOWEL SIGN AUoSIGN ANUSVARAtVISARGAtNUKTAtCANDRAtHALANTAoVIRAMAoREPHA",
     "pA-KARA"]),
   (0x11d50, ["aMASARAM GONDI DIGIT ZEROuONEuTWOvHREEuFOURvIVEuSIXvEVENuEIGHTuNINE"]),
   (0x11d60, ["aGUNJALA GONDI LETTER AwAvIwIvUwU"]),
   (0x11d67, ["aGUNJALA GONDI LETTER EEvAI"]),
   (0x11d6a, [
     "aGUNJALA GONDI LETTER OOvAUvYAvVAvBAwHAvMAvKAwHAvTAwHAvLAvGAwHAvDAwHAvNAvCAwHAvTTAxHAvLLA",
     "vJAwHAvDDAxHAvNGAvPAwHAvHAvRAvSAoVOWEL SIGN AAzI!IzU!U"]),
   (0x11d90, ["aGUNJALA GONDI VOWEL SIGN EEzAI"]),
   (0x11d93, ["aGUNJALA GONDI VOWEL SIGN OOzAUoSIGN ANUSVARAtVISARGAoVIRAMAoOM"]),
   (0x11da0, ["aGUNJALA GONDI DIGIT ZEROuONEuTWOvHREEuFOURvIVEuSIXvEVENuEIGHTuNINE"]),
   (0x11ee0, [
     "aMAKASAR LETTER KApGApNGApPApBApMApTApDApNApCApJApNYApYApRApLApVApSApAiANGKAiVOWEL SIGN I",
     "tUtEtOiPASSIMBANGiEND OF SECTION"]),
   (0x11fb0, ["aLISU LETTER YHA"]),
   (0x11fc0, [
     "aTAMIL FRACTION ONE THREE-HUNDRED-AND-TWENTIETHtONE-HUNDRED-AND-SIXTIETHtEIGHTIETH",
     "tSIXTY-FOURTHtFORTIETHtTHIRTY-SECONDpTHREE EIGHTIETHSvSIXTY-FOURTHSpONE TWENTIETH",
     "tSIXTEENTH-1&2tTENTHtEIGHTHpTHREE TWENTIETHSvSIXTEENTHSpONE FIFTHtQUARTERtHALF-1y2",
     "pTHREE QUARTERSpDOWNSCALING FACTOR KIIZHgSIGN NELlCEVITUlAAZHAAKKUlUZHAKKUlMUUVUZHAKKU",
     "lKURUNIlPATHAKKUlMUKKURUNIlKAACUlPANAMmONlVARAAKANlPAARAMlKUZHIlVELIgWET CULTIVATION SIGN",
     "gDRY CULTIVATION SIGNgLAND SIGNgSALT PAN SIGNgTRADITIONAL CREDIT SIGNsNUMBER SIGN",
     "gCURRENT SIGNgAND ODD SIGNgSPENT SIGNgTOTAL SIGNgIN POSSESSION SIGNgSTARTING FROM SIGN",
     "hIGN MUTHALIYAlVAKAIYARAA"]),
   (0x11fff, [
     "aTAMIL PUNCTUATION END OF TEXTaCUNEIFORM SIGN Aq TIMES AxBADxGAN2 TENUxHAxIGIxLAGAR GUNU",
     "xMUSHxSAGq2qBr TIMES ASH2yDUN3 GUNUyGAL!N2 TENUyHAyIGI GUNUzMINyLAGABySHESH",
     "yU PLUS U PLUS UsGUNUr2s TIMES BALAGzGAN2 TENUzME PLUS ENzSHA3zTAK4qDqKr TIMES ERIN2",
     "ySHITA PLUS GISHqLr TIMES ALyDIM2yGISHyHAyKAD3zIySHEyUSHrANrEPHqMARt TIMES SHEqNr OVER AN",
     "sTHREE TIMESsPLUS NAGA OPPOSING AN PLUS NAGA%SQUAREDrSHEqPINqRADt TIMES KURrKABqSAL2rH",
     "s ZIDA TENUtKABA TENUtOVER ASH TUG2 OVER TUG2 TUG2 OVER TUG2 PAP%OVER ASH",
     "; CROSSING ASH OVER ASH OVER ASHs2sGABpBArDrG3rHAR2rLs OVER BALsAGrRsA2qIr TIMES AyGAR",
     "yIGI GUNUqUr OVER BU AB!UNsCROSSING BUrLUGu OVER BULUGrRs2pDArGs KISIM5 TIMES A PLUS MASH",
     ".MAR,BALAG.I,GA/ PLUS MASH.I/R2.UD,HA,IR/ PLUS LU,KAK,LA.U/ PLUS MASH2/M,NE,PAP PLUS PAP",
     ",SI,TAK4,U2 PLUS GIR2.SHrMrRsA3t4qIrBrMs TIMES SHEs2rNs KASKAL U GUNU DISHrSHqUr OVER DU",
     "sGUNUsSHESHIGrBs TIMES ESH2s2rGsUDrHrNs3t GUNUy GUNUs4rR2pEq TIMES PAPrOVER E NUN OVER NUN",
     "q2r TIMES A PLUS HA PLUS DAyGARyMIySALzHEyUqDINqGIRqLqNr TIMES GAN2% TENUyMEsCROSSING EN",
     "sOPPOSING ENsSQUAREDqRENrIN2qSH2qZENt TIMES A$ PLUS LAL; TIMES LAL$N!BAD!DUN3 GUNU: GUNU",
     "!HA% GUNU!IGI GUNU!KASKAL, SQUARED$U3!LA%L TIMES LAL$I$U!U2$DpGAr GUNUr2",
     "s TIMES A PLUS DA PLUS HA,HA,IGI!B2 TENU PLUS TAB!N!SH%2 PLUS GALzBAD$R PLUS RA!UR",
     "% PLUS RAzDA!I$M TIMES SHE!UBzEL$ PLUS LA!N$ TIMES GAN2 TENUzGAN2 TENU$R!I$4% PLUS A",
     "$R2 PLUS SUzHA PLUS LU PLUS ESH2$L% PLUS LA!I PLUS LI!UB2zIGI GUNU!SH PLUS HU PLUS ASHzKAK",
     "$SKAL!ID% PLUS LAL!U3 PLUS ANzLAzME PLUS EN!IzNUN% OVER NUNzPAzSAL$R!HE% PLUS TUR$ID!UM",
     "zTAK4zU!D$ PLUS DUtOVER GA2rBAt CROSSING GABArDs OVER GAD GAR OVER GARrL",
     "s GAD OVER GAD GAR OVER GARsAMrMrNs2t TENUuOVER GAN2uCROSSING GAN2rRs3rSHANqESHTIN",
     "w TIMES KURqIr TIMES EyUsCROSSING GIr4s OVER GI4tCROSSING GI4rDIMrR2t GUNUs3",
     "t TIMES A PLUS IGI!GAN2 TENU!IGI!LU PLUS IGI!PArSALsHt CROSSING GISHuTIMES BAD!TAK4vENUqU",
     "r CROSSING GUr2s TIMES KAK% TIMES IGI GUNUzNUNzSAL PLUS TUG2tGUNUrDs TIMES A PLUS KURzKUR",
     "tOVER GUD LUGALrLrMs TIMES SHErRs7sUNtSHpHAr TENUsGUNUrLqIr TIMES ASH$2yBADyDISHyGADyKIN",
     "yNUNySHEyUqUrB2t TIMES AN!HAL!KASKAL!LISH!UDrL2pIq AqBqDIMt OVER IDIM BUR*SQUAREDqGrIs DIB",
     "tRItOVER IGI SHIR OVER SHIR UD OVER UDtGUNUqLr TIMES GAN2 TENUr2qMr TIMES TAK4sCROSSING IM",
     "sOPPOSING IMsSQUAREDrINqNqRqSHpKAr TIMES AzD! PLUS KU3zSH2yBAD!LAG!RzIyERIN2zSH2yGA!L",
     "!N2 TENU!R$ PLUS SHA3 PLUS AzI!R2!SH PLUS SAR&CROSSING GISHzU!R7yIGIzMyKAKzI!DyLIzUyME",
     "! PLUS DU,GI,TEzI! PLUS NUNUZyNEzUNyPIyRUySA!RzHA!E!ID!UzIGzUHURyTARyUz2zDzMUM TIMES PAzSH",
     "yZIr2s CROSSING KA2rBrD2s3s4s5t OVER KAD5rKs TIMES IGI GUNUrLs TIMES BADtCROSSING KALrM2s4",
     "rSKALv LAGAB TIMES U OVER LAGAB TIMES UwOVER KASKAL LAGAB TIMES U OVER LAGAB TIMES UqESH2",
     "qIr TIMES BADyUzDrDrNrSALsHsIM5v OVER KISIM5qUr OVER HI TIMES ASH2 KU OVER HI TIMES ASH2r3",
     "r4s VARIANT FORMr7rLs GUNUrNrRs OPPOSING KURrSHU2qWU318pLArGABu TIMES A% PLUS DA PLUS HA",
     "/GAR/LAL%L%N%SH ZIDA TENU$BAD%I$DAR$EN$GA&R%UD* PLUS GUD$HA&L%I TIMES NUN$IGI GUNU%M",
     "& PLUS HA:LU$KI&N%U3&L* PLUS HI PLUS A$LAGAB%ISH%U&L$ME& PLUS EN%USH$NE$SHE PLUS SUM",
     "&ITA PLUS GISH PLUS ERIN2_TENU&U2+ PLUS SHU2%UM$TAG&K4%E PLUS A PLUS SU PLUS NA$U% PLUS A",
     "/U PLUS U%2 PLUS ASH%D%SHvSQUAREDtRu TIMES SHE* PLUS SUMvGUNUz OVER LAGAR GUNU SHErHSHUrL",
     "s TIMES LALrMs TIMES KUR% PLUS RUqIrLrMMU2rSHqUr TIMES BADr2s TIMES ALzBADzESH2& TENU",
     "zGAN2 TENUzHI TIMES BADzIMzKAD2%3& PLUS ASH!IzLA PLUS ASH$GABzME PLUS ENzNE!UzSI PLUS ASH",
     "$K2 PLUS BUzTUG2uENUtCROSSING LU2tOPPOSING LU2tSQUAREDuHESHIGr3rGALu OVER LUGAL",
     "wPPOSING LUGALvSHESHIGrHrLrMs OVER LUM$ GAR OVER GARpMAr TIMES TAK4sGUNUr2rHrRrSHt2qErSqI",
     "rNqUr OVER MUrGs GUNUrNSUBrRGU2rSHt TIMES A!KUR!ZAuOVER MUSH& TIMES A PLUS NA",
     "uCROSSING MUSHt3u TIMES A% PLUS DI$DIvGUNUpNAr2rGAt INVERTEDuTIMES SHU TENUuOPPOSING NAGA",
     "tRrM NUTILLUss2qEr TIMES AyUDsSHESHIGqIr TIMES Er2rMs TIMES GAN2 TENU$R PLUS GAN2 TENU",
     "rNDA2v TIMES AN&SH+ PLUS ASH%GUD%ME PLUS GAN2 TENU%NE&UN%SHE+ PLUS A AN=SH? PLUS ASH",
     "%U2 PLUS ASH&SHrSAGqUr11rNs LAGAR TIMES GAR+MASH+SAL/ OVER NUN LAGAR TIMES SAL+USHtTENU",
     "tOVER NUNtCROSSING NUN+ LAGAR OVER LAGARsUZu AB2 TIMES ASHGAB+BI+DUG+GUD+IGI GUNU+KAD3+LA",
     "+NE+SILA3+U2vKISIM5 TIMES BI; UpPArDrNrPqESH2qIr TIMES AzByBIzUyEyIzByUz2sCROSSING PIrRIG",
     "u TIMES KAL$UD$ZAvOPPOSING PIRIGpRArBqIqUpSArG NUTILLUss TIMES AzDU$BzHAzKAK!URzLUMzMIzNUN",
     "zSAL!HIDzTABzU2!B!M!R!SHtOVER SAGtGUNUrLs LAGAB TIMES ASH2rNGA2rRqHAs3t TIMES A!BAD!GISH",
     "!NE!SHU2!TUR!U$ PLUS As6sB6sR2rEs HUtOVER SHE GAD OVER GAD GAR OVER GAR",
     "%TAB OVER TAB GAR OVER GARsG9sNsSHu2uLAMrIDt TIMES A!IMsMt TIMES A!BAL$ULUG!DIN!GAR!IGI",
     "& GUNU!KUSHU2!LUL!MUG!SALsNIGsRt TENUuOVER SHIR BUR OVER BURsTArUs OVER INVERTED SHUs2sBUR",
     "qIr GUNUrGs4t OVER SIG4 SHU2rK2rLA3qUr OVER SUrDs2rHURrMsASHrRs9pTAr ASTERISKsTIMES HIyMI",
     "sGUNUrBs OVER TAB NI OVER NI DISH OVER DISHtSQUAREDrGs TIMES BIzGUDzSHE$UzTUG2zUDrK4rRqE",
     "r GUNUqIr TENUrLrRs TIMES TAK4tOVER TIR$ GAD OVER GAD GAR OVER GARqUrG2rKrMrR",
     "s OVER TUR ZA OVER ZApUq GUDrU UrOVER U PA OVER PA GAR OVER GARySUR OVER SUR",
     "yU REVERSED OVER U REVERSEDq2qBqDr KUSHU2sTIMES BADyMIyU PLUS U PLUS U> GUNUsGUNUsSHESHIG",
     "z TIMES BADrUGqMr TIMES LAGAByME PLUS DAySHA3yUrBINrUMt TIMES KASKAL!PAqNr GUNUqR",
     "r CROSSING URsSHESHIGr2s TIMES A PLUS HA,NA!LzHAzNUNzU2$ PLUS ASH.BIr4rIs3rUs TIMES A",
     "!SHGABzBARzDUNzGA$L$N2 TENU$R!UzHAzIGI!M!SHzKIzLUMzMINzPAzSHE!IG4zTUzU PLUS GUD!D!RUDAsDA",
     "u TIMES UqSHs TIMES AzKU$RzTAK4sXs2sUMXqTUKIqZ3s TIMES KASKALrUpZAr TENUsSQUARED TIMES KUR",
     "rGrMXqE2qIr OVER ZIr3rBs KABA TENUrGrZ2qUr5s TIMES ArBURrMpKAP ELAMITEpAB TIMES NUN",
     "r2 TIMES AqMAR TIMES KUGpDAG KISIM5 TIMES U2 PLUS MASHs3qISH PLUS SHUqUB TIMES SHE",
     "pEZEN TIMES GUD!SHEpGA2 TIMES AN PLUS KAK PLUS A!SH2qE22qIGpHUSHpKA TIMES ANSHEzSH3yGISH",
     "zUDyHI TIMES ASH2yLUMyPAySHULyTUyUR2pLAGAB TIMES GIqU2 SHESHIG TIMES BAD",
     "tTIMES ESH2 PLUS LALzSHUpMESHqUSH3 TIMES ZApNA4qINs9sDA2 TIMES BAL%GI",
     "qU11 ROTATED NINETY DEGREESpPESH2 ASTERISKqIR2pSAG TIMES IGI GUNUpTI2pUM TIMES MEq U"]),
   (0x12400, [
     "aCUNEIFORM NUMERIC SIGN TWO ASHyHREE ASHxFOUR ASHyIVE ASHxSIX ASHyEVEN ASHxEIGHT ASH",
     "xNINE ASHxTHREE DISHxFOUR DISHyIVE DISHxSIX DISHyEVEN DISHxEIGHT DISHxNINE DISHxFOUR U",
     "yIVE UxSIX UyEVEN UxEIGHT UxNINE UxONE GESH2xTWO GESH2yHREE GESH2xFOUR GESH2yIVE GESH2",
     "xSIX GESH2yEVEN GESH2xEIGHT GESH2xNINE GESH2xONE GESHUxTWO GESHUyHREE GESHUxFOUR GESHU",
     "yIVE GESHUxTWO SHAR2yHREE SHAR2/ VARIANT FORMxFOUR SHAR2yIVE SHAR2xSIX SHAR2yEVEN SHAR2",
     "xEIGHT SHAR2xNINE SHAR2xONE SHARUxTWO SHARUyHREE SHARU/ VARIANT FORMxFOUR SHARUyIVE SHARU",
     "xSHAR2 TIMES GAL PLUS DISH|MINxONE BURUxTWO BURUyHREE BURU. VARIANT FORMxFOUR BURU",
     "yIVE BURUxTHREE VARIANT FORM ESH16~21xFOUR VARIANT FORM LIMMU~U4~U A~U B",
     "xSIX VARIANT FORM ASH9yEVEN VARIANT FORM IMIN3~N A~N BxEIGHT VARIANT FORM USSU~U3",
     "xNINE VARIANT FORM ILIMMU~MU3~MU4~MU AxTWO ASH TENUyHREE ASH TENUxFOUR ASH TENU",
     "yIVE ASH TENUxSIX ASH TENUxONE BAN2xTWO BAN2yHREE BAN2xFOUR BAN2, VARIANT FORMyIVE BAN2",
     ", VARIANT FORMxNIGIDAMIN&ESHxONE ESHE3xTWO ESHE3xONE THIRD DISHxTWO THIRDS DISH",
     "xFIVE SIXTHS DISHxONE THIRD VARIANT FORM AxTWO THIRDS VARIANT FORM AxONE EIGHTH ASH",
     "$QUARTER ASHyLD ASSYRIAN ONE SIXTH?QUARTERyNE QUARTER GUR$HALF GURxELAMITE ONE THIRD",
     "+TWO THIRDS+FORTY,IFTYxFOUR U VARIANT FORMyIVE U VARIANT FORMxSIX U VARIANT FORM",
     "yEVEN U VARIANT FORMxEIGHT U VARIANT FORMxNINE U VARIANT FORM"]),
   (0x12470, [
     "aCUNEIFORM PUNCTUATION SIGN OLD ASSYRIAN WORD DIVIDER$VERTICAL COLON$DIAGONAL COLON",
     ";TRICOLON;QUADCOLON"]),
   (0x12480, [
     "aCUNEIFORM SIGN AB TIMES NUN TENUySHU2qD TIMES ESH2pBAD TIMES DISH TENUrHAR2 TIMES AB2%NI",
     "%ZAqU OVER BU TIMES NA2pDA TIMES TAK4rG TIMES KURqIM TIMES IGIzU U Us2 TIMES UD",
     "qUG TIMES ANSHE!SH% AT LEFTzDIN!UNzERIN2zGA!I$R2 GUNU$SHzHA!IzIGI GUNUzKASKAL!UR$SHU2",
     "+ PLUS KASKALzLAK-020$M% TIMES KUR!UH PLUS GISHzMASH!ES!IzNIzPIzSHE!I GUNUpE2 TIMES KUR",
     "yPAPqRIN2 XqSH2 CROSSING ESH2qZEN SHESHIG TIMES ASH/HI/IGI GUNU/LA;L/ME;S/SUuTIMES SU",
     "pGA2 TIMES BAHAR2zDIM GUNU!UG TIMES IGI GUNU:KASKALzERENzGA$R PLUS DI/NEzHA PLUS A",
     "zKUSHU2 PLUS KASKALzLAM% TIMES KUR!UHzMUSHzNE$ PLUS E2.GIzSHIMzZIZ2",
     "rBA ROTATED NINETY DEGREESqESHTIN TIMES UqISH TIMES GISH CROSSING GISHqU2 TIMES IGI GUNU",
     "rD PLUS GISH TIMES TAK4pHA TENU GUNUqI TIMES ASH OVER HI TIMES ASHpKA TIMES BUyKAyU U UzR",
     "pLAGAB TIMES ZU OVER ZUrK-003u21v5u30u50v1u62u79 OVER LAK-079 GUNUu80v1 OVER LAK-081u92",
     "t130u42t210v9u20v5v8u38u65v6t343v7v8u83v4u90t441v9w TIMES GU&IGI&PAP PLUS LU3=PAP PLUS LU3",
     "&U2 PLUS BAu50v7u70u83u90v2v3v5t550t608u17w TIMES ASH&BAD&DUN3 GUNU GUNU&KU3&LA&TAR*E&U2*D",
     "*RUDAu36u48w TIMES DUB&GA&IGI, GUNU&NI&PAP PLUS PAP PLUS LU3&SHESH PLUS KI&UD*RUDAt724u49",
     "qU2 GUNU TIMES ASHtTIMES DISHzHALzPAP% PLUS PAP PLUS LU3zTAK4pMI PLUS ZA7",
     "qUSH OVER MUSH TIMES GA;KAKpNINDA2 TIMES DIM GUNU%GISH&UL%HI%KESH2%LAK-050%MASH",
     "%PAP PLUS PAP%U& PLUS U&RUDApSAG GUNU TIMES HAtTIMES ENzSHE AT LEFTzTAK4qHA6 TENU",
     "rE OVER SHEtPLUS HUB2yNAM2ySARrU2 PLUS DUG TIMES NIzE2 TIMES ANqI TIMES TAK4pTAK4 PLUS SAG",
     "qUM TIMES GAN2 TENUzTHREE DISHpUR2 INVERTEDtTIMES UDrU TIMES DARA3zLAK-668!U3pZA7",
     "qU OVER ZU PLUS SARr5 TIMES THREE DISH TENU"]),
   (0x12f90, [
     "aCYPRO-MINOAN SIGN CM001w2w4w5w6w7w8w9v10w1w2xBw3w5w7w9v21w3w4w5w6w7w8w9v30w3w4w5w6w7w8w9",
     "v40w1w4w6w7w9v50w1w2w3w4w5w6w8w9v60w1w2w3w4w6w7w8w9v70w1w2w3w4w5xBw6w8w9v80w1w2w3w4w5w6w7",
     "w8w9v90w1w2w4w5w6w7w8w9u100w1w2w3w4w5w7w8w9v10w2w4u301w2"]),
   (0x13000, [
     "aEGYPTIAN HIEROGLYPH A001x2x3x4x5yAx6yAyBx7x8x9w10x1x2x3x4yAx5x6x7yAx8x9w20x1x2x3x4x5x6x7",
     "x8x9w30x1x2yAx3x4x5x6x7x8x9w40yAx1x2yAx3yAx4x5yAx6x7x8x9w50x1x2x3x4x5x6x7x8x9w60x1x2x3x4x5",
     "x6x7x8x9w70uB001x2x3x4x5yAx6x7x8x9uC001x2yAyByCx3x4x5x6x7x8x9w10yAx1x2x3x4x5x6x7x8x9w20x1",
     "x2x3x4uD001x2x3x4x5x6x7x8yAx9w10x1x2x3x4x5x6x7x8x9w20x1x2x3x4x5x6x7yAx8x9w30x1yAx2x3x4yAx5",
     "x6x7x8x9w40x1x2x3x4x5x6yAx7x8yAx9w50yAyByCyDyEyFyGyHyIx1x2yAx3x4yAx5x6x7x8x9w60x1x2x3x4x5",
     "x6x7yAyByCyDyEyFyGyHuE001x2x3x4x5x6x7x8yAx9yAw10x1x2x3x4x5x6yAx7yAx8x9w20yAx1x2x3x4x5x6x7",
     "x8yAx9w30x1x2x3x4yAx6x7x8uF001yAx2x3x4x5x6x7x8x9w10x1x2x3yAx4x5x6x7x8x9w20x1yAx2x3x4x5x6x7",
     "x8x9w30x1yAx2x3x4x5x6x7yAx8yAx9w40x1x2x3x4x5yAx6yAx7yAx8x9w50x1yAyByCx2x3uG001x2x3x4x5x6yA",
     "x7yAyBx8x9w10x1yAx2x3x4x5x6x7x8x9w20yAx1x2x3x4x5x6yAx7x8x9w30x1x2x3x4x5x6yAx7yAx8x9w40x1x2",
     "x3yAx4x5yAx6x7x8x9w50x1x2x3x4uH001x2x3x4x5x6yAx7x8uI001x2x3x4x5yAx6x7x8x9yAw10yAx1yAx2x3x4",
     "x5uK001x2x3x4x5x6x7x8uL001x2yAx3x4x5x6yAx7x8uM001yAyBx2x3yAx4x5x6x7x8x9w10yAx1x2yAyByCyDyE",
     "yFyGyHx3x4x5yAx6yAx7yAx8x9w20x1x2yAx3x4yAx5x6x7x8yAx9w30x1yAx2x3yAyBx4x5x6x7x8x9w40yAx1x2",
     "x3x4uN001x2x3x4x5x6x7x8x9w10x1x2x3x4x5x6x7x8yAyBx9w20x1x2x3x4x5yAx6x7x8x9w30x1x2x3yAx4yAx5",
     "yAx6x7yAx8x9w40x1x2vL001y2y3y4y5zAy6y7y8y9x10y1y2y3y4y5y6y7zAy8y9x20vU001y2y3y4y5y6y7y8y9",
     "x10zAy1zAy2y3y4y5y6y7y8zAy9x20y1y2zAuO001yAx2x3x4x5yAx6yAyByCyDyEyFx7x8x9w10yAyByCx1x2x3x4",
     "x5x6x7x8x9yAw20yAx1x2x3x4yAx5yAx6x7x8x9yAw30yAx1x2x3yAx4x5x6yAyByCyDx7x8x9w40x1x2x3x4x5x6",
     "x7x8x9w50yAyBx1uP001yAx2x3yAx4x5x6x7x8x9w10x1uQ001x2x3x4x5x6x7uR001x2yAx3yAyBx4x5x6x7x8x9",
     "w10yAx1x2x3x4x5x6yAx7x8x9w20x1x2x3x4x5x6x7x8x9uS001x2yAx3x4x5x6yAx7x8x9w10x1x2x3x4yAyBx5x6",
     "x7yAx8x9w20x1x2x3x4x5x6yAyBx7x8x9w30x1x2x3x4x5yAx6x7x8x9w40x1x2x3x4x5x6uT001x2x3yAx4x5x6x7",
     "yAx8yAx9yAw10x1yAx2x3x4x5x6yAx7x8x9w20x1x2x3x4x5x6x7x8x9w30x1x2yAx3yAx4x5x6uU001x2x3x4x5x6",
     "yAyBx7x8x9w10x1x2x3x4x5x6x7x8x9w20x1x2x3yAx4x5x6x7x8x9yAw30x1x2yAx3x4x5x6x7x8x9w40x1x2",
     "uV001yAyByCyDyEyFyGyHyIx2yAx3x4x5x6x7yAyBx8x9w10x1yAyByCx2yAyBx3x4x5x6x7x8x9w20yAyByCyDyE",
     "yFyGyHyIyJyKyLx1x2x3yAx4x5x6x7x8yAx9yAw30yAx1yAx2x3yAx4x5x6x7yAx8x9w40yAuW001x2x3yAx4x5x6",
     "x7x8x9yAw10yAx1x2x3x4yAx5x6x7yAx8yAx9w20x1x2x3x4yAx5uX001x2x3x4yAyBx5x6yAx7x8yAuY001yAx2x3",
     "x4x5x6x7x8uZ001x2yAyByCyDx3yAyBx4yAx5yAx6x7x8x9w10x1x2x3x4x5yAyByCyDyEyFyGyHyIx6yAyByCyDyE",
     "yFyGyHuAA001y2y3y4y5y6y7zAzBy8y9x10y1y2y3y4y5y6y7y8y9x20y1y2y3y4y5y6y7y8y9x30y1y2"]),
   (0x13430, [
     "aEGYPTIAN HIEROGLYPH VERTICAL JOINERuHORIZONTAL JOINERuINSERT AT TOP START*BOTTOM START",
     "*TOP END*BOTTOM ENDuOVERLAY MIDDLEuBEGIN SEGMENTuEND SEGMENT"])]

end TokenTemplate.Unicode
