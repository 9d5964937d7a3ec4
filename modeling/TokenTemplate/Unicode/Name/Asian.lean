import TokenTemplate.Unicode.Name.Run

/-!
# Names of Asian, African and American scripts

The names that version 14 of the standard gives to characters:
the scripts of South East Asia, of Africa and of America.
-/

namespace TokenTemplate.Unicode

/-- Runs of characters with their names. -/
def asianNames : List NameRun :=
  [(0xe01, [
     "aTHAI CHARACTER KO KAIqHO KHAIvUATvWAIvONtRAKHANGpNGO NGUpCHO CHANvINGvANGpSO SOpCHO CHOE",
     "pYO YINGpDO CHADApTO PATAKqHO THANtNANGMONTHOtPHUTHAOpNO NENpDO DEKpTO TAOqHO THUNGvAHAN",
     "vONGpNO NUpBO BAIMAIpPO PLAqHO PHUNGpFO FApPHO PHANpFO FANpPHO SAMPHAOpMO MApYO YAKpRO RUA",
     "qUpLO LINGqUpWO WAENpSO SALAsRUSIsSUApHO HIPpLO CHULApO ANGpHO NOKHUKpPAIYANNOIpSARA A",
     "pMAI HAN-AKATpSARA AAvMuIvIuUEwEvvUpPHINTHU"]),
   (0xe3f, [
     "aTHAI CURRENCY SYMBOL BAHTgHARACTER SARA EuAEuOuAI MAIMUAN$ALAIpLAKKHANGYAOpMAIYAMOK",
     "sTAIKHUs EKtTHOuRItCHATTAWApTHANTHAKHATpNIKHAHITpYAMAKKANpFONGMANfDIGIT ZEROlONElTWOmHREE",
     "lFOURmIVElSIXmEVENlEIGHTlNINEfCHARACTER ANGKHANKHUpKHOMUT"]),
   (0xe81, ["aLAO LETTER KOmHO SUNG"]),
   (0xe84, ["aLAO LETTER KHO TAM"]),
   (0xe86, ["aLAO LETTER PALI GHAlNGOlCOlPALI CHAlSO TAM"]),
   (0xe8c, [
     "aLAO LETTER PALI JHAlNYOlPALI NYAqTTAsHAqDDAsHAqNNAlDOlTOmHO SUNGpTAMlPALI DHAlNOlBOlPO",
     "mHO SUNGlFO TAMlPHO TAMlFO SUNGlPALI BHAlMOlYOlLO LING"]),
   (0xea5, ["aLAO LETTER LO LOOT"]),
   (0xea7, [
     "aLAO LETTER WOlSANSKRIT SHAvSAmO SUNGlHO SUNGlPALI LLAlOlHO TAMeELLIPSISeVOWEL SIGN A",
     "pMAI KANpAAqMpIqIpYqYpUqUeSIGN PALI VIRAMAeVOWEL SIGN MAI KONeSEMIVOWEL SIGN LOtNYO"]),
   (0xec0, ["aLAO VOWEL SIGN EqIpOpAYqI"]),
   (0xec6, ["aLAO KO LA"]),
   (0xec8, ["aLAO TONE MAI EKnTHOoInCATAWAeCANCELLATION MARKeNIGGAHITA"]),
   (0xed0, ["aLAO DIGIT ZEROkONEkTWOlHREEkFOURlIVEkSIXlEVENkEIGHTkNINE"]),
   (0xedc, ["aLAO HO NOhMOeLETTER KHMU GOqNYO"]),
   (0xf00, [
     "aTIBETAN SYLLABLE OMiMARK GTER YIG MGO TRUNCATED A!-UM RNAM BCAD MA*GTER TSHEG MA",
     "nINITIAL YIG MGO MDUN MAnCLOSING YIG MGO SGAB MAoARET YIG MGO PHUR SHAD MA",
     "nYIG MGO TSHEG SHAD MAnSBRUL SHADnBSKUR YIG MGOoKA- SHOG YIG MGOnINTERSYLLABIC TSHEG",
     "nDELIMITER TSHEG BSTARnSHADnNYIS SHADnTSHEG SHADnNYIS TSHEG SHADnRIN CHEN SPUNGS SHAD",
     "oGYA GRAM SHADnCARET -DZUD RTAGS ME LONG CANnGTER TSHEGiLOGOTYPE SIGN CHAD RTAGS",
     "wLHAG RTAGSiASTROLOGICAL SIGN SGRA GCAN -CHAR RTAGS!-KHYUD PA!SDONG TSHUGS",
     "iSIGN RDEL DKAR GCIGyNYISySUMsNAG GCIGxNYISsDKAR RDEL NAGiDIGIT ZEROoONEoTWOpHREEoFOURpIVE",
     "oSIXpEVENoEIGHToNINEoHALF ONEtTWOuHREEtFOURuIVEtSIXuEVENtEIGHTtNINEtZEROiMARK BSDUS RTAGS",
     "nNGAS BZUNG NYI ZLAnCARET -DZUD RTAGS BZHI MIG CANnNGAS BZUNG SGOR RTAGSnCHE MGOnTSA -PHRU",
     "nGUG RTAGS GYONzASnANG KHANG GYONzASiSIGN YAR TSHESnMAR TSHESiLETTER KAqHApGAqHApNGApCAqHA",
     "pJA"]),
   (0xf49, [
     "aTIBETAN LETTER NYApTTArHApDDArHApNNApTAqHApDAqHApNApPAqHApBAqHApMApTSArHApDZArHApWApZHAqA",
     "p-ApYApRApLApSHAqSAqApHApApKSSApFIXED-FORM RApKKApRRA"]),
   (0xf71, [
     "aTIBETAN VOWEL SIGN AAtIuItUuUtVOCALIC R%R$L%LtEuEtOuOiSIGN RJES SU NGA ROoNAM BCAD",
     "iVOWEL SIGN REVERSED I&IiSIGN NYI ZLA NAA DAnSNA LDANiMARK HALANTAnPALUTAiSIGN LCI RTAGS",
     "nYANG RTAGSnLCE TSA CANnMCHU CANnGRU CAN RGYINGSrMED RGYINGSnINVERTED MCHU CAN",
     "jUBJOINED SIGN LCE TSA CANxMCHU CANxINVERTED MCHU CANsLETTER KA!HAzGA!HAzNGAzCA!HAzJA"]),
   (0xf99, [
     "aTIBETAN SUBJOINED LETTER NYAzTTA$HAzDDA$HAzNNAzTA!HAzDA!HAzNAzPA!HAzBA!HAzMAzTSA$HAzDZA",
     "$HAzWAzZHA!Az-AzYAzRAzLAzSHA!SA!AzHAzAzKSSAzFIXED-FORM WA;YA;RA"]),
   (0xfbe, [
     "aTIBETAN KU RU KHAr BZHI MIG CANiCANTILLATION SIGN HEAVY BEAT!LIGHT BEAT!CANG TE-U",
     "!SBUB -CHALiSYMBOL DRIL BUpRDO RJEpPADMA GDANpRDO RJE RGYA GRAMpPHUR PApNOR BU",
     "v NYIS -KHYILwGSUM -KHYILwBZHI -KHYIL"]),
   (0xfce, [
     "aTIBETAN SIGN RDEL NAG RDEL DKARwGSUMiMARK BSKA- SHOG GI MGO RGYANnMNYAM YIG GI MGO RGYAN",
     "nNYIS TSHEGnINITIAL BRDA RNYING YIG MGO MDUN MAnCLOSING BRDA RNYING YIG MGO SGAB MA",
     "aRIGHT-FACING SVASTI SIGNaLEFT-FACING SVASTI SIGNaRIGHT-FACING SVASTI SIGN WITH DOTS",
     "aLEFT-FACING SVASTI SIGN WITH DOTSaTIBETAN MARK LEADING MCHAN RTAGSnTRAILING MCHAN RTAGS"]),
   (0x1000, [
     "aMYANMAR LETTER KAqHApGAqHApNGApCAqHApJAqHApNYAqNYApTTArHApDDArHApNNApTAqHApDAqHApNApPAqHA",
     "pBAqHApMApYApRApLApWApSApHApLLApApSHAN ApIqIpUqUpEpMON EpOpAUiVOWEL SIGN TALL AAtAAtIuItU",
     "uUtEtAItMON IIxOtE ABOVEiSIGN ANUSVARAnDOT BELOWnVISARGApRAMAnASAT",
     "iCONSONANT SIGN MEDIAL YA*RA*WA*HAiLETTER GREAT SAiDIGIT ZEROoONEoTWOpHREEoFOURpIVEoSIX",
     "pEVENoEIGHToNINEiSIGN LITTLE SECTIONnSECTIONjYMBOL LOCATIVEpCOMPLETEDpAFOREMENTIONED",
     "pGENITIVEiLETTER SHAqSApVOCALIC RyRxLyLiVOWEL SIGN VOCALIC R%R$L%LiLETTER MON NGAtJHAtBBA",
     "vEiCONSONANT SIGN MON MEDIAL NA/MA/LAiLETTER SGAW KAREN SHAiVOWEL SIGN SGAW KAREN EU",
     "iTONE MARK SGAW KAREN HATHI&KE PHOiLETTER WESTERN PWO KAREN THA.PWA",
     "iVOWEL SIGN WESTERN PWO KAREN EU<UEiSIGN WESTERN PWO KAREN TONE-1;2;3;4;5",
     "iLETTER EASTERN PWO KAREN NNA.YWA.GHWAiVOWEL SIGN GEBA KAREN ItKAYAH OEzUzEE",
     "iLETTER SHAN KAvHAuGAuCAuZAuNYAuDAuNAuPHAuFAuBAuTHAuHAiCONSONANT SIGN SHAN MEDIAL WA",
     "iVOWEL SIGN SHAN AAyEz ABOVEyFINAL YiSIGN SHAN TONE-2x3x5x6sCOUNCIL TONE-2+3!EMPHATIC TONE",
     "iLETTER RUMAI PALAUNG FAiSIGN RUMAI PALAUNG TONE-5jHAN DIGIT ZEROtONEtTWOuHREEtFOURuIVE",
     "tSIXuEVENtEIGHTtNINEjIGN KHAMTI TONE-1z3iVOWEL SIGN AITON A!IiSYMBOL SHAN ONEuEXCLAMATION",
     "aGEORGIAN CAPITAL LETTER ANyBANyGANyDONyENyVINyZENyTANyINyKANyLASyMANyNARyONyPARyZHARyRAE",
     "ySANyTARyUNyPHARyKHARyGHANyQARySHINyCHINzANyJILyCILzHARyXANyJHANyHAEzEzIEyWEyHARzOE"]),
   (0x10c7, ["aGEORGIAN CAPITAL LETTER YN"]),
   (0x10cd, ["aGEORGIAN CAPITAL LETTER AEN"]),
   (0x10d0, [
     "aGEORGIAN LETTER ANqBANqGANqDONqENqVINqZENqTANqINqKANqLASqMANqNARqONqPARqZHARqRAEqSANqTAR",
     "qUNqPHARqKHARqGHANqQARqSHINqCHINrANqJILqCILrHARqXANqJHANqHAErErIEqWEqHARrOEqFIqYNqELIFI",
     "qTURNED GANqAINjPARAGRAPH SEPARATORaMODIFIER LETTER GEORGIAN NARaGEORGIAN LETTER AEN",
     "qHARD SIGNqLABIAL SIGNaHANGUL CHOSEONG KIYEOKqSSANGKIYEOKqNIEUNqTIKEUTqSSANGTIKEUTqRIEUL",
     "qMIEUMqPIEUPqSSANGPIEUPrIOSrSANGSIOSqIEUNGqCIEUCqSSANGCIEUCqCHIEUCHqKHIEUKHqTHIEUTH",
     "qPHIEUPHqHIEUHqNIEUN-KIYEOKqSSANGNIEUNqNIEUN-TIKEUTwPIEUPqTIKEUT-KIYEOKqRIEUL-NIEUN",
     "qSSANGRIEULqRIEUL-HIEUHqKAPYEOUNRIEULqMIEUM-PIEUPqKAPYEOUNMIEUMqPIEUP-KIYEOKwNIEUNwTIKEUT",
     "wSIOS!-KIYEOK$TIKEUT$PIEUPxSANGSIOSxIOS-CIEUCwCIEUCxHIEUCHwTHIEUTHwPHIEUPHqKAPYEOUNPIEUP",
     "ySSANGPIEUPqSIOS-KIYEOKvNIEUNvTIKEUTvRIEULvMIEUMvPIEUP!-KIYEOKvSSANGSIOSvIEUNGvCIEUC",
     "wHIEUCHvKHIEUKHvTHIEUTHvPHIEUPHvHIEUHqCHITUEUMSIOSzSANGSIOSrEONGCHIEUMSIOS%SANGSIOS",
     "qPANSIOSqIEUNG-KIYEOKwTIKEUTwMIEUMwPIEUPwSIOSwPANSIOSqSSANGIEUNGqIEUNG-CIEUCxHIEUCH",
     "wTHIEUTHwPHIEUPHqYESIEUNGqCIEUC-IEUNGrHITUEUMCIEUCySSANGCIEUCrEONGCHIEUMCIEUC$SSANGCIEUC",
     "rHIEUCH-KHIEUKHyHIEUHtTUEUMCHIEUCHrEONGCHIEUMCHIEUCHqPHIEUPH-PIEUPqKAPYEOUNPHIEUPH",
     "qSSANGHIEUHqYEORINHIEUHqKIYEOK-TIKEUTqNIEUN-SIOSwCIEUCwHIEUHqTIKEUT-RIEULqFILLER",
     "hJUNGSEONG FILLERrAsErYAtErEOsrYEOtrOrWAtErOErYOrUrWEOtsIrYUrEUrYIrIrA-OtUrYA-OuYOrEO-OuU",
     "uEUrYEO-OvUrO-EOutYEtOtUrYO-YAwEvEOuOuIrU-AuEtEO-EUtYEtUrYU-AuEOvuYEOwuUuIrEU-UuEUrYI-U",
     "rI-AtYAtOtUtEUtARAEArARAEAw-EOxUxIrSSANGARAEArA-EUrYA-UsEO-YArO-YAvEiONGSEONG KIYEOK",
     "rSSANGKIYEOKrKIYEOK-SIOSrNIEUNw-CIEUCxHIEUHrTIKEUTrRIEULw-KIYEOKxMIEUMxPIEUPxSIOSxTHIEUTH",
     "xPHIEUPHxHIEUHrMIEUMrPIEUPw-SIOSrSIOSsSANGSIOSrIEUNGrCIEUCsHIEUCHrKHIEUKHrTHIEUTHrPHIEUPH",
     "rHIEUHrKIYEOK-RIEULySIOS-KIYEOKrNIEUN-KIYEOKxTIKEUTxSIOSxPANSIOSxTHIEUTHrTIKEUT-KIYEOK",
     "yRIEULrRIEUL-KIYEOK-SIOSxNIEUNxTIKEUT&-HIEUHrSSANGRIEULrRIEUL-MIEUM-KIYEOK&SIOSxPIEUP-SIOS",
     "&HIEUHxKAPYEOUNPIEUPxSSANGSIOSxPANSIOSxKHIEUKHxYEORINHIEUHrMIEUM-KIYEOKxRIEULxPIEUPxSIOS",
     "ySANGSIOSxPANSIOSxCHIEUCHxHIEUHrKAPYEOUNMIEUMrPIEUP-RIEULxPHIEUPHxHIEUHrKAPYEOUNPIEUP",
     "rSIOS-KIYEOKwTIKEUTwRIEULwPIEUPrPANSIOSrIEUNG-KIYEOKxSSANGKIYEOKrSSANGIEUNGrIEUNG-KHIEUKH",
     "rYESIEUNGz-SIOS!PANSIOSrPHIEUPH-PIEUPrKAPYEOUNPHIEUPHrHIEUH-NIEUNxRIEULxMIEUMxPIEUP",
     "rYEORINHIEUHrKIYEOK-NIEUNyPIEUPyCHIEUCHyKHIEUKHyHIEUHrSSANGNIEUNaETHIOPIC SYLLABLE HAtUtI",
     "tAAtEEutOuAsLAtUtItAAtEEutOtWAsHHAuUuIuAAuEEvuOuWAsMAtUtItAAtEEutOtWAsSZAuUuIuAAuEEvuOuWA",
     "sRAtUtItAAtEEutOtWAsSAtUtItAAtEEutOtWAtHAuUuIuAAuEEvuOuWAsQAtUtItAAtEEutOuAtWA"]),
   (0x124a, ["aETHIOPIC SYLLABLE QWIuAAuEEv"]),
   (0x1250, ["aETHIOPIC SYLLABLE QHAuUuIuAAuEEvuO"]),
   (0x1258, ["aETHIOPIC SYLLABLE QHWA"]),
   (0x125a, ["aETHIOPIC SYLLABLE QHWIvAAvEEw"]),
   (0x1260, [
     "aETHIOPIC SYLLABLE BAtUtItAAtEEutOtWAsVAtUtItAAtEEutOtWAsTAtUtItAAtEEutOtWAsCAtUtItAAtEEu",
     "tOtWAsXAtUtItAAtEEutOuAtWA"]),
   (0x128a, ["aETHIOPIC SYLLABLE XWIuAAuEEv"]),
   (0x1290, [
     "aETHIOPIC SYLLABLE NAtUtItAAtEEutOtWAtYAuUuIuAAuEEvuOuWAsGLOTTAL A!U!I!AA!EE$!O!WAsKAtUtI",
     "tAAtEEutOuAtWA"]),
   (0x12b2, ["aETHIOPIC SYLLABLE KWIuAAuEEv"]),
   (0x12b8, ["aETHIOPIC SYLLABLE KXAuUuIuAAuEEvuO"]),
   (0x12c0, ["aETHIOPIC SYLLABLE KXWA"]),
   (0x12c2, ["aETHIOPIC SYLLABLE KXWIvAAvEEw"]),
   (0x12c8, ["aETHIOPIC SYLLABLE WAtUtItAAtEEutOuAsPHARYNGEAL A&U&I&AA&EE*&O"]),
   (0x12d8, [
     "aETHIOPIC SYLLABLE ZAtUtItAAtEEutOtWAtHAuUuIuAAuEEvuOuWAsYAtUtItAAtEEutOuAsDAtUtItAAtEEutO",
     "tWAtDAuUuIuAAuEEvuOuWAsJAtUtItAAtEEutOtWAsGAtUtItAAtEEutOuAtWA"]),
   (0x1312, ["aETHIOPIC SYLLABLE GWIuAAuEEv"]),
   (0x1318, [
     "aETHIOPIC SYLLABLE GGAuUuIuAAuEEvuOuWAAsTHAuUuIuAAuEEvuOuWAsCHAuUuIuAAuEEvuOuWAsPHAuUuIuAA",
     "uEEvuOuWAsTSAuUuIuAAuEEvuOuWAtZAuUuIuAAuEEvuOvAsFAtUtItAAtEEutOtWAsPAtUtItAAtEEutOtWAsRYA",
     "sMYAsFYA"]),
   (0x135d, [
     "aETHIOPIC COMBINING GEMINATION AND VOWEL LENGTH MARKtVOWEL LENGTH MARKtGEMINATION MARK",
     "jSECTION MARKjWORDSPACEjFULL STOPjCOMMAjSEMICOLONjCOLONjPREFACE COLONjQUESTION MARK",
     "jPARAGRAPH SEPARATORjDIGIT ONEpTWOqHREEpFOURqIVEpSIXqEVENpEIGHTpNINEjNUMBER TENrWENTY",
     "rHIRTYqFORTYrIFTYqSIXTYrEVENTYqEIGHTYqNINETYqHUNDREDqTEN THOUSAND"]),
   (0x1380, [
     "aETHIOPIC SYLLABLE SEBATBEIT MWAsMWIuEEvsSEBATBEIT BWAsBWIuEEvsSEBATBEIT FWAsFWIuEEv",
     "sSEBATBEIT PWAsPWIuEEvjTONAL MARK YIZETuDERETuRIKRIKuSHORT RIKRIKuDIFATuKENATuCHIRETuHIDET",
     "uDERET-HIDETuKURT"]),
   (0x13a0, [
     "aCHEROKEE LETTER AqEqIqOqUqVqGAqKAqGErIrOrUrVqHArErIrOrUrVqLArErIrOrUrVqMArErIrOrUqNAqHNA",
     "qNAHrErIrOrUrVqQUAsEsIsOsUsVqSArrErIrOrUrVqDAqTAqDEqTEqDIqTIqDOrUrVrLAqTLAsEsIsOsUsVrSAsE",
     "sIsOsUsVqWArErIrOrUrVqYArErIrOrUrVqMV"]),
   (0x13f8, ["aCHEROKEE SMALL LETTER YExIxOxUxVwMV"]),
   (0x1400, [
     "aCANADIAN SYLLABICS HYPHENtEtAAItIuItOuOtY-CREE OOtCARRIER EE$ItAuAtWEvST-CREE WEuI",
     "uEST-CREE WIuIIuEST-CREE WIIuOuEST-CREE WOuOOuEST-CREE WOOtNASKAPI WOOtWAuEST-CREE WAuAA",
     "uEST-CREE WAAtNASKAPI WAAtAItY-CREE WtGLOTTAL STOPtFINAL ACUTEzGRAVEzBOTTOM HALF RING",
     "zTOP HALF RINGzRIGHT HALF RING$NGzDOUBLE ACUTE,SHORT VERTICAL STROKESzMIDDLE DOT",
     "zSHORT HORIZONTAL STROKEzPLUSzDOWN TACKtENtINtONtANtPEuAAIuIvIuOvOtY-CREE POOtCARRIER HEE",
     "%ItPAvAuWEtWEST-CREE PWEtPWItWEST-CREE PWItPWIItWEST-CREE PWIItPWOtWEST-CREE PWOtPWOO",
     "tWEST-CREE PWOOtPWAtWEST-CREE PWAtPWAAtWEST-CREE PWAAtY-CREE PWAAtPtWEST-CREE PtCARRIER H",
     "tTEuAAIuIvIuOvOtY-CREE TOOtCARRIER DEE%ItTAvAuWEtWEST-CREE TWEtTWItWEST-CREE TWItTWII",
     "tWEST-CREE TWIItTWOtWEST-CREE TWOtTWOOtWEST-CREE TWOOtTWAtWEST-CREE TWAtTWAA",
     "tWEST-CREE TWAAtNASKAPI TWAAtTuTEvIvOvAtKEuAAIuIvIuOvOtY-CREE KOOtKAvAuWEtWEST-CREE KWE",
     "tKWItWEST-CREE KWItKWIItWEST-CREE KWIItKWOtWEST-CREE KWOtKWOOtWEST-CREE KWOOtKWA",
     "tWEST-CREE KWAtKWAAtWEST-CREE KWAAtNASKAPI KWAAtKuWtSOUTH-SLAVEY KEH.IH.OH.AHtCEuAAIuIvIuO",
     "vOtY-CREE COOtCAvAuWEtWEST-CREE CWEtCWItWEST-CREE CWItCWIItWEST-CREE CWIItCWO",
     "tWEST-CREE CWOtCWOOtWEST-CREE CWOOtCWAtWEST-CREE CWAtCWAAtWEST-CREE CWAAtNASKAPI CWAAtC",
     "tSAYISI THtMEuAAIuIvIuOvOtY-CREE MOOtMAvAuWEtWEST-CREE MWEtMWItWEST-CREE MWItMWII",
     "tWEST-CREE MWIItMWOtWEST-CREE MWOtMWOOtWEST-CREE MWOOtMWAtWEST-CREE MWAtMWAA",
     "tWEST-CREE MWAAtNASKAPI MWAAtMtWEST-CREE MtMHtATHAPASCAN MtSAYISI MtNEuAAIuIvIuOvO",
     "tY-CREE NOOtNAvAuWEtWEST-CREE NWEtNWAtWEST-CREE NWAtNWAAtWEST-CREE NWAAtNASKAPI NWAAu",
     "tCARRIER NGtNHtLEuAAIuIvIuOvOtY-CREE LOOtLAvAuWEtWEST-CREE LWEtLWItWEST-CREE LWItLWII",
     "tWEST-CREE LWIItLWOtWEST-CREE LWOtLWOOtWEST-CREE LWOOtLWAtWEST-CREE LWAtLWAA",
     "tWEST-CREE LWAAtLtWEST-CREE LtMEDIAL LtSEuAAIuIvIuOvOtY-CREE SOOtSAvAuWEtWEST-CREE SWEtSWI",
     "tWEST-CREE SWItSWIItWEST-CREE SWIItSWOtWEST-CREE SWOtSWOOtWEST-CREE SWOOtSWAtWEST-CREE SWA",
     "tSWAAtWEST-CREE SWAAtNASKAPI SWAAtStATHAPASCAN StSWtBLACKFOOT StMOOSE-CREE SKtNASKAPI SKW",
     "%-W%PWA%TWA%KWA%CWAtSHEvIwIvOwOvAwAvWEtWEST-CREE SHWEtSHWItWEST-CREE SHWItSHWII",
     "tWEST-CREE SHWIItSHWOtWEST-CREE SHWOtSHWOOtWEST-CREE SHWOOtSHWAtWEST-CREE SHWAtSHWAA",
     "tWEST-CREE SHWAAtSHtYEuAAIuIvIuOvOu-CREE YOOuAvAuWEtWEST-CREE YWEtYWItWEST-CREE YWItYWII",
     "tWEST-CREE YWIItYWOtWEST-CREE YWOtYWOOtWEST-CREE YWOOtYWAtWEST-CREE YWAtYWAA",
     "tWEST-CREE YWAAtNASKAPI YWAAtYtBIBLE-CREE YtWEST-CREE YtSAYISI YItREu-CREE REtWEST-CREE LE",
     "tRAAIuIvIuOvOtWEST-CREE LOtRAvAtWEST-CREE LAtRWAAtWEST-CREE RWAAtRtWEST-CREE RtMEDIAL RtFE",
     "uAAIuIvIuOvOuAvAuWAAtWEST-CREE FWAAtFtTHEtN-CREE THEtTHItN-CREE THItTHIItN-CREE THIItTHOwO",
     "vAwAvWAAtWEST-CREE THWAAtTHuTHEwIwOwAwuYEvIvOvAtNUNAVIK HE%I&I%O&O%A&A%yUT HtHKtQAAIuIvIuO",
     "vOuAvAutTLHEwIwOwAtWEST-CREE RE*I*O*AtNGAAIvIwIvOwOvAwAvuNGtSAYISI SHE%I%O%A",
     "tWOODS-CREE THE,I,O,A,tLHIwIvOwOvAwAvtTH-CREE THE&I*I&O*O&A*A&tAIVILIK BtBLACKFOOT E&I&O&A",
     "&WE*I*O*A&NE*I*O*A&KE*I*O*AtSAYISI HE$I$O$AtCARRIER GHU&O&E*E&I&A$RU%O%E&E%I%A$WU%O%E&E%I",
     "%A$HWU&O&E*E&I&A$THU&O&E*E&I&A%TU&O&E*E&I&A$PU%O%E&E%I%A%$GU%O%E&E%I%A$KHU&O&E*E&I&A%KU&O",
     "&E*E&I&A&$NU%O%E&E%I%A$MU%O%E&E%I%A$YU%O%E&E%I%A$JUtSAYISI JUtCARRIER JO%E&E%ItSAYISI JI",
     "tCARRIER JA%JU&O&E*E&I&A$LU%O%E&E%I%A$DLU&O&E*E&I&A$LHU&O&E*E&I&A$TLHU*O*E+E*I*A&U&O&E*E&I",
     "&A$ZU%O%E&E%I%A%$INITIAL Z$DZU&O&E*E&I&A$SU%O%E&E%I%A%HU&O&E*E&I&A&$TSU&O&E*E&I&A$CHU&O&E",
     "*E&I&A$TTSU*O*E+E*I*AuHI SIGNtFULL STOPtQAItNGAIuNGIxIwOxOwAxAtWOODS-CREE THWEE.I/I.O/O.A",
     "/A*FINAL THtBLACKFOOT WaOGHAM SPACE MARKgLETTER BEITHnLUISnFEARNnSAILnNIONnUATHnDAIRnTINNE",
     "nCOLLoEIRTnMUINnGORTnNGEADALnSTRAIFnRUISnAILMnONNnURnEADHADHnIODHADHnEABHADHnORnUILLEANN",
     "nIFINnEAMHANCHOLLnPEITHgFEATHER MARKgREVERSED FEATHER MARK"]),
   (0x16a0, [
     "aRUNIC LETTER FEHU FEOH FE FnVnURUZ UR UnYRonWnTHURISAZ THURS THORNnETHnANSUZ AnOS OnAC A",
     "oESCnLONG-BRANCH-OSS OnSHORT-TWIG-OSS OnOoEoNnRAIDO RAD REID RnKAUNAnCENnKAUN KnGnENG",
     "nGEBO GYFU GoARnWUNJO WYNN WnHAGLAZ HpEGL HnLONG-BRANCH-HAGALL HnSHORT-TWIG-HAGALL H",
     "nNAUDIZ NYD NAUD NnSHORT-TWIG-NAUD NnDOTTED-NnISAZ IS ISS InEnJERAN JnGER",
     "nLONG-BRANCH-AR AEnSHORT-TWIG-AR AnIWAZ EOHnPERTHO PEORTH PnALGIZ EOLHXnSOWILO S",
     "oIGEL LONG-BRANCH-SOL SoHORT-TWIG-SOL SnCnZnTIWAZ TIR TYR TnSHORT-TWIG-TYR TnD",
     "nBERKANAN BEORC BJARKAN BnSHORT-TWIG-BJARKAN BnDOTTED-PnOPEN-PnEHWAZ EH EnMANNAZ MAN M",
     "nLONG-BRANCH-MADR MnSHORT-TWIG-MADR MnLAUKAZ LAGU LOGR LnDOTTED-LnINGWAZqnDAGAZ DAEG D",
     "nOTHALAN ETHEL OnEARnIORnCWEORTHoALCoEALCnSTANnLONG-BRANCH-YRnSHORT-TWIG-YRnICELANDIC-YRnQ",
     "nXgSINGLE PUNCTUATIONgMULTIPLE PUNCTUATIONgCROSS PUNCTUATIONgARLAUG SYMBOLgTVIMADUR SYMBOL",
     "gBELGTHOR SYMBOLgLETTER KnSHnOOnFRANKS CASKET OS$IS$EH$AC%ESC"]),
   (0x1700, [
     "aTAGALOG LETTER ApIpUpKApGApNGApTApDApNApPApBApMApYApRApLApWApSApHAiVOWEL SIGN ItU",
     "iSIGN VIRAMAnPAMUDPOD"]),
   (0x171f, [
     "aTAGALOG LETTER ARCHAIC RAaHANUNOO LETTER ApIpUpKApGApNGApTApDApNApPApBApMApYApRApLApWApSA",
     "pHAiVOWEL SIGN ItUiSIGN PAMUDPODaPHILIPPINE SINGLE PUNCTUATIONlDOUBLE PUNCTUATION"]),
   (0x1740, ["aBUHID LETTER AnInUnKAnGAnNGAnTAnDAnNAnPAnBAnMAnYAnRAnLAnWAnSAnHAgVOWEL SIGN IrU"]),
   (0x1760, ["aTAGBANWA LETTER AqIqUqKAqGAqNGAqTAqDAqNAqPAqBAqMAqYA"]),
   (0x176e, ["aTAGBANWA LETTER LAqWAqSA"]),
   (0x1772, ["aTAGBANWA VOWEL SIGN IuU"]),
   (0x1780, [
     "aKHMER LETTER KAoHAoOoHOnNGOnCAoHAoOoHOnNYOnDAnTTHAnDOnTTHOnNNOnTAoHAoOoHOnNOnBAnPHAoOoHO",
     "nMOnYOnROnLOnVOnSHAoSOoAnHAnLAnQAgINDEPENDENT VOWEL QAQ!AzI!IzU!K!U$VyRY!YyLY!YyQEzAI",
     "zOO TYPE ONE.TWOzAUgVOWEL INHERENT AQwAmSIGN AArIsIrYsYrUsUsArOErYArIErErAEsIrOOrAU",
     "gSIGN NIKAHITlREAHMUKlYUUKALEAPINTUlMUUSIKATOANlTRIISAPlBANTOClROBATlTOANDAKHIATlKAKABAT",
     "lAHSDAlSAMYOK SANNYAlVIRIAMlCOENGlBATHAMASATlKHANlBARIYOOSANlCAMNUC PII KUUHlLEK TOO",
     "lBEYYALlPHNAEK MUANlKOOMUUTgCURRENCY SYMBOL RIELgSIGN AVAKRAHASANYAmTTHACAN"]),
   (0x17e0, ["aKHMER DIGIT ZEROmONEmTWOnHREEmFOURnIVEmSIXnEVENmEIGHTmNINE"]),
   (0x17f0, ["aKHMER SYMBOL LEK ATTAK SONxMUOYxPIIxBEIyUONxPRAM$-MUOY%PII%BEI&UON"]),
   (0x1800, [
     "aMONGOLIAN BIRGAkELLIPSISkCOMMAkFULL STOPkCOLONkFOUR DOTSkTODO SOFT HYPHEN",
     "kSIBE SYLLABLE BOUNDARY MARKERkMANCHU COMMArFULL STOPkNIRUGUkFREE VARIATION SELECTOR ONE",
     "/TWO:HREEkVOWEL SEPARATORkFREE VARIATION SELECTOR FOURkDIGIT ZEROqONEqTWOrHREEqFOURrIVE",
     "qSIXrEVENqEIGHTqNINE"]),
   (0x1820, [
     "aMONGOLIAN LETTER ArErIrOrUrOErUErEErNArANGrBArPArQArGArMArLArSAsHArTArDArCHArJArYArRArWA",
     "rFArKAsHArTSArZArHAArZRArLHArZHIrCHIrTODO LONG VOWEL SIGNwEwIwOwUwOEwUEwANGwBAwPAwQAwGAwMA",
     "wTAwDAwCHAwJAwTSAwYAwWAwKAwGAAwHAAwJIAwNIAwDZArSIBE EwIxYwUExwANGwKAwGAwHAwPAwSHAwTAwDAwJA",
     "wFAwGAAwHAAwTSAwZAwRAAwCHAwZHArMANCHU IyKAyRAyFAyZHArCHA WITH TWO DOTS"]),
   (0x1880, [
     "aMONGOLIAN LETTER ALI GALI ANUSVARA ONE!VISARGA ONE!DAMARU!UBADAMA!INVERTED UBADAMA!BALUDA",
     "!THREE BALUDA!A!I!KA!NGA!CA!TTA%HA!DDA!NNA!TA!DA!PA$HA!SSA!ZHA$A!AHrTODO ALI GALI TA+ZHA",
     "rMANCHU ALI GALI GHA.NGA.CA.JHA.TTA.DDHA.TA.DHA.SSA.CYA.ZHA/ArALI GALI HALF U+YA",
     "rMANCHU ALI GALI BHArALI GALI DAGALGArMANCHU ALI GALI LHA"]),
   (0x18b0, [
     "aCANADIAN SYLLABICS OYtAYuAYtWAYtPOYuAYuWOYtTAYtKAYuWAYtMAYtNOYuAYtLAYtSOYuAYuHOYvAYvWOY",
     "tYOYuAYtRAYtNWItOJIBWAY NWItNWIItOJIBWAY NWIItNWOtOJIBWAY NWOtNWOOtOJIBWAY NWOOtRWEEvIwIvO",
     "wOvAtOJIBWAY P$T$K$C$M$N$S%HtEASTERN WtWESTERN WtFINAL SMALL RINGzRAISED DOTtR-CREE RWE",
     "tWEST-CREE LOO*AAtTHWEwAuTHWEwOOwAAuLHWEwOOtSAYISI SHWE%OO!HOOtCARRIER GWU$DENE GEE$GAA%WA",
     "tSAYISI JUUtCARRIER JWAtBEAVER DENE L+RtCARRIER DENTAL S"]),
   (0x1900, [
     "aLIMBU VOWEL-CARRIER LETTERgLETTER KAoHAnGAoHAnNGAnCAoHAnJAoHAnYANnTAoHAnDAoHAnNAnPAoHAnBA",
     "oHAnMAnYAnRAnLAnWAnSHAoSAoAnHAnGYANnTRA"]),
   (0x1920, ["aLIMBU VOWEL SIGN ArIrUrEErAIrOOrAUrErOgSUBJOINED LETTER YAxRAxWA"]),
   (0x1930, [
     "aLIMBU SMALL LETTER KAtNGAtANUSVARAtTAtNAtPAtMAtRAtLAhIGN MUKPHRENGlKEMPHRENGlSA-I"]),
   (0x1940, ["aLIMBU SIGN LOO"]),
   (0x1944, [
     "aLIMBU EXCLAMATION MARKgQUESTION MARKgDIGIT ZEROmONEmTWOnHREEmFOURnIVEmSIXnEVENmEIGHTmNINE",
     "aTAI LE LETTER KAoXAoNGAoTSAoSAoYAoTApHAoLAoPApHAoMAoFAoVAoHAoQAoKHAoTSHAoNAoAoIoEEpHoUoOO",
     "poUEoEoAUEpI"]),
   (0x1970, ["aTAI LE LETTER TONE-2t3t4t5t6"]),
   (0x1980, [
     "aNEW TAI LUE LETTER HIGH QAtLOW QAtHIGH KAyXAyNGAtLOW KAxXAxNGAtHIGH TSAySAyYAtLOW TSAxSA",
     "xYAtHIGH TAzHAyNAtLOW TAyHAxNAtHIGH PAzHAyMAtLOW PAyHAxMAtHIGH FAyVAyLAtLOW FAxVAxLA",
     "tHIGH HAyDAyBAtLOW HAxDAxBAtHIGH KVAyXVAtLOW KVAxXVAtHIGH SUAtLOW SUA"]),
   (0x19b0, [
     "aNEW TAI LUE VOWEL SIGN VOWEL SHORTENERxAAxIIxUyUxExAExOyAxUExAYyAYxUYxOYyAYxUEYxIY",
     "mLETTER FINAL VzNG!zMzKzDzBmTONE MARK-1w2"]),
   (0x19d0, ["aNEW TAI LUE DIGIT ZEROsONEsTWOtHREEsFOURtIVEsSIXtEVENsEIGHTsNINEmTHAM DIGIT ONE"]),
   (0x19de, [
     "aNEW TAI LUE SIGN LAEuVaKHMER SYMBOL PATHAMASATnMUOY KOETnPII KOETnBEI KOEToUON KOET",
     "nPRAM KOETr-MUOY KOETsPII KOETsBEI KOETtUON KOETnDAP KOETq-MUOY KOETrPII KOETrBEI KOET",
     "sUON KOETrPRAM KOETnTUTEYASATnMUOY ROCnPII ROCnBEI ROCoUON ROCnPRAM ROCr-MUOY ROCsPII ROC",
     "sBEI ROCtUON ROCnDAP ROCq-MUOY ROCrPII ROCrBEI ROCsUON ROCrPRAM ROCaBUGINESE LETTER KAqGA",
     "qNGAsKAqPAqBAqMArPAqTAqDAqNArRAqCAqJAqNYAsCAqYAqRAqLAqVAqSAqAqHAjVOWEL SIGN IuUuEuOuAE"]),
   (0x1a1e, [
     "aBUGINESE PALLAWAjEND OF SECTIONaTAI THAM LETTER HIGH KAwHAwXAqLOW KAvXAvHAqNGAqHIGH CAwHA",
     "qLOW CAuSAuCHAqNYAqRATAqHIGH RATHAqDAqLOW RATHAqRANAqHIGH TAwHAqLOW TAvHAqNAqBAqHIGH PAwHA",
     "vFAqLOW PAuFAuPHAqMAqLOW YAqHIGH YAqRArUEqLArUEqWAqHIGH SHAwSAwAvHAqLLAqAqLOW HAqIrIqUrU",
     "qEEqOOqLAEqGREAT SAjCONSONANT SIGN MEDIAL RA+LAyLA TANG LAIjSIGN MAI KANG LAI",
     "jCONSONANT SIGN FINAL NGAyLOW PAyHIGH RATHA OR LOW PAyMAyBAySA"]),
   (0x1a60, [
     "aTAI THAM SIGN SAKOTjVOWEL SIGN AuMAI SATuAAuTALL AAuIvIuUEvUEvvUuOvA BELOWvYuEuAEuOOuAI",
     "uTHAM AIuOA ABOVEjSIGN MAI KANGoTONE-1t2oKHUEN TONE-3z4z5oRA HAAMoMAI SAMoKHUEN-LUE KARAN"]),
   (0x1a7f, [
     "aTAI THAM COMBINING CRYPTOGRAMMIC DOTjHORA DIGIT ZEROuONEuTWOvHREEuFOURvIVEuSIXvEVENuEIGHT",
     "uNINE"]),
   (0x1a90, ["aTAI THAM THAM DIGIT ZEROuONEuTWOvHREEuFOURvIVEuSIXvEVENuEIGHTuNINE"]),
   (0x1aa0, [
     "aTAI THAM SIGN WIANGtWAAKoSAWANoKEOWoHOYoDOKMAIoREVERSED ROTATED RANAoMAI YAMOKoKAANsKUU",
     "oSATKAANvKUUoHANGoCAANG"])]

end TokenTemplate.Unicode
