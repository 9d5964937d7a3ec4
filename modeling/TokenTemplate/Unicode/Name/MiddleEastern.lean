import TokenTemplate.Unicode.Name.Run

/-!
# Names of Middle Eastern scripts

The names that version 14 of the standard gives to characters:
the scripts of the Middle East.
-/

namespace TokenTemplate.Unicode

/-- Runs of characters with their names. -/
def middleEasternNames : List NameRun :=
  [(0x591, [
     "aHEBREW ACCENT ETNAHTAoSEGOLpHALSHELEToZAQEF QATANuGADOLoTIPEHAoREVIAoZARQAoPASHTAoYETIV",
     "oTEVIRoGERESHu MUQDAMrSHAYIMoQARNEY PARAoTELISHA GEDOLAoPAZERoATNAH HAFUKHoMUNAHpAHAPAKH",
     "pERKHAu KEFULAoDARGAoQADMAoTELISHA QETANAoYERAH BEN YOMOoOLEoILUYoDEHIoZINOR",
     "hMARK MASORA CIRCLEhPOINT SHEVAnHATAF SEGOLtPATAHtQAMATSoIRIQnTSEREnSEGOLnPATAHnQAMATS",
     "nHOLAMs HASER FOR VAVnQUBUTSnDAGESH OR MAPIQnMETEGiUNCTUATION MAQAFiOINT RAFE",
     "iUNCTUATION PASEQiOINT SHIN DOToIN DOTiUNCTUATION SOF PASUQhMARK UPPER DOTmLOWER DOT",
     "hPUNCTUATION NUN HAFUKHAiOINT QAMATS QATAN"]),
   (0x5d0, [
     "aHEBREW LETTER ALEFoBEToGIMELoDALEToHEoVAVoZAYINoHEToTEToYODoFINAL KAFoKAFoLAMEDoFINAL MEM",
     "oMEMoFINAL NUNoNUNoSAMEKHoAYINoFINAL PEoPEoFINAL TSADIoTSADIoQOFoRESHoSHINoTAV"]),
   (0x5ef, [
     "aHEBREW YOD TRIANGLEhLIGATURE YIDDISH DOUBLE VAVyVAV YODyDOUBLE YODhPUNCTUATION GERESH",
     "wSHAYIM"]),
   (0x600, [
     "aARABIC NUMBER SIGNhSIGN SANAHhFOOTNOTE MARKERhSIGN SAFHAoMVAThNUMBER MARK ABOVE",
     "g-INDIC CUBE ROOTnFOURTH ROOTg RAYg-INDIC PER MILLE SIGNrTEN THOUSAND SIGNbFGHANI SIGN",
     "bRABIC COMMAhDATE SEPARATORhPOETIC VERSE SIGNhSIGN MISRAmSALLALLAHOU ALAYHE WASSALLAM",
     "mALAYHE ASSALLAMmRAHMATULLAH ALAYHEoDI ALLAHOU ANHUmTAKHALLUSiMALL HIGH TAH",
     "sLIGATURE ALEF WITH LAM WITH YEHsZAINnFATHAnDAMMAnKASRAiEMICOLONhLETTER MARK",
     "hEND OF TEXT MARKhTRIPLE DOT PUNCTUATION MARKhQUESTION MARKhLETTER KASHMIRI YEHoHAMZA",
     "oALEF WITH MADDA ABOVEyHAMZA ABOVEoWAW WITH HAMZA ABOVEoALEF WITH HAMZA BELOW",
     "oYEH WITH HAMZA ABOVEoALEFoBEHoTEH MARBUTArpHEHoJEEMoHAHoKHAHoDALoTHALoREHoZAINoSEENpHEEN",
     "pADoDADoTAHoZAHoAINoGHAINoKEHEH WITH TWO DOTS ABOVE!HREE DOTS BELOW",
     "oFARSI YEH WITH INVERTED V&TWO DOTS ABOVE*HREE DOTS ABOVEhTATWEELhLETTER FEHoQAFoKAFoLAM",
     "oMEEMoNOONoHEHoWAWoALEF MAKSURAoYEHhFATHATANhDAMMATANhKASRATANhFATHAhDAMMAhKASRAhSHADDA",
     "iUKUNhMADDAH ABOVEhHAMZA ABOVEnBELOWhSUBSCRIPT ALEFhINVERTED DAMMAhMARK NOON GHUNNA",
     "hZWARAKAYhVOWEL SIGN SMALL V ABOVEsINVERTED SMALL V ABOVEsDOT BELOWhREVERSED DAMMA",
     "hFATHA WITH TWO DOTShWAVY HAMZA BELOWg-INDIC DIGIT ZEROtONEtTWOuHREEtFOURuIVEtSIXuEVEN",
     "tEIGHTtNINEg PERCENT SIGNhDECIMAL SEPARATORhTHOUSANDS SEPARATORhFIVE POINTED STAR",
     "hLETTER DOTLESS BEHwQAFoSUPERSCRIPT ALEFoALEF WASLAuITH WAVY HAMZA ABOVE:BELOWoHIGH HAMZA",
     "y ALEFzWAWoU WITH HAMZA ABOVEoHIGH HAMZA YEHoTTEHsEHoBEEHoTEH WITH RING",
     "xTHREE DOTS ABOVE DOWNWARDSoPEHoTEHEHoBEHEHoHAH WITH HAMZA ABOVExTWO DOTS VERTICAL ABOVE",
     "oNYEHoDYEHoHAH WITH THREE DOTS ABOVEoTCHEHtEHoDDALpAL WITH RINGxDOT BELOW, AND SMALL TAH",
     "qHALpDAHALpULpAL WITH THREE DOTS ABOVE DOWNWARDSxFOUR DOTS ABOVEoRREHpEH WITH SMALL VxRING",
     "xDOT BELOWxSMALL V BELOWxDOT BELOW AND DOT ABOVExTWO DOTS ABOVEoJEH",
     "oREH WITH FOUR DOTS ABOVEoSEEN WITH DOT BELOW AND DOT ABOVEyTHREE DOTS BELOW",
     "? AND THREE DOTS ABOVEpAD WITH TWO DOTS BELOWyHREE DOTS ABOVEoTAH WITH THREE DOTS ABOVE",
     "oAIN WITH THREE DOTS ABOVEoDOTLESS FEHoFEH WITH DOT MOVED BELOW$BELOWoVEH",
     "oFEH WITH THREE DOTS BELOWoPEHEHoQAF WITH DOT ABOVExTHREE DOTS ABOVEoKEHEHoSWASH KAF",
     "oKAF WITH RINGxDOT ABOVEoNGoKAF WITH THREE DOTS BELOWoGAFr WITH RINGoNGOEH",
     "oGAF WITH TWO DOTS BELOWpUEHpAF WITH THREE DOTS ABOVEoLAM WITH SMALL VxDOT ABOVE",
     "xTHREE DOTS ABOVE/BELOWoNOON WITH DOT BELOWtGHUNNAoRNOONoNOON WITH RINGyTHREE DOTS ABOVE",
     "oHEH DOACHASHMEEoTCHEH WITH DOT ABOVEoHEH WITH YEH ABOVEsGOALw WITH HAMZA ABOVE",
     "oTEH MARBUTA GOALoWAW WITH RINGoKIRGHIZ OEoOEoUoYUoKIRGHIZ YUoWAW WITH TWO DOTS ABOVEoVE",
     "oFARSI YEHoYEH WITH TAILxSMALL VoWAW WITH DOT ABOVEoEoYEH WITH THREE DOTS BELOWsBARREE",
     "y WITH HAMZA ABOVEhFULL STOPhLETTER AEhSMALL HIGH LIGATURE SAD WITH LAM WITH ALEF MAKSURA",
     "$QAF WITH LAM WITH ALEF MAKSURAsMEEM INITIAL FORMsLAM ALEFsJEEMsTHREE DOTSsSEEN",
     "hEND OF AYAHhSTART OF RUB EL HIZBiMALL HIGH ROUNDED ZEROsUPRIGHT RECTANGULAR ZERO",
     "sDOTLESS HEAD OF KHAHsMEEM ISOLATED FORMnLOW SEENnHIGH MADDAnWAWnYEHnHIGH YEHsNOON",
     "hPLACE OF SAJDAHhEMPTY CENTRE LOW STOPuHIGH STOPhROUNDED HIGH STOP WITH FILLED CENTRE",
     "hSMALL LOW MEEMhLETTER DAL WITH INVERTED VoREH WITH INVERTED V",
     "aEXTENDED ARABIC-INDIC DIGIT ZERO%ONE%TWO&HREE%FOUR&IVE%SIX&EVEN%EIGHT%NINE",
     "aARABIC LETTER SHEEN WITH DOT BELOWoDAD WITH DOT BELOWoGHAIN WITH DOT BELOW",
     "hSIGN SINDHI AMPERSANDtPOSTPOSITION MENhLETTER HEH WITH INVERTED VaSYRIAC END OF PARAGRAPH",
     "hSUPRALINEAR FULL STOPjBLINEAR FULL STOPjPRALINEAR COLONjBLINEAR COLONhHORIZONTAL COLON",
     "hCOLON SKEWED LEFTuRIGHThSUPRALINEAR COLON SKEWED LEFTjBLINEAR COLON SKEWED RIGHT",
     "hCONTRACTIONhHARKLEAN OBELUSqMETOBELUSqASTERISCUS"]),
   (0x70f, [
     "aSYRIAC ABBREVIATION MARKhLETTER ALAPHoSUPERSCRIPT ALAPHoBETHoGAMALt GARSHUNIoDALATH",
     "pOTLESS DALATH RISHoHEoWAWoZAINoHETHoTETHs GARSHUNIoYUDHs HEoKAPHoLAMADHoMIMoNUNoSEMKATH",
     "oFINAL SEMKATHoEoPEoREVERSED PEoSADHEoQAPHoRISHoSHINoTAWoPERSIAN BHETHwGHAMALwDHALATH",
     "hPTHAHA ABOVEoBELOWoDOTTEDhZQAPHA ABOVEoBELOWoDOTTEDhRBASA ABOVEnBELOW",
     "hDOTTED ZLAMA HORIZONTALuANGULARhHBASA ABOVEnBELOWm-ESASA DOTTEDhESASA ABOVEnBELOWhRWAHA",
     "hFEMININE DOThQUSHSHAYAhRUKKAKHAhTWO VERTICAL DOTS ABOVEzBELOWiHREE DOTS ABOVEsBELOW",
     "hOBLIQUE LINE ABOVEuBELOWhMUSIChBARREKH"]),
   (0x74d, [
     "aSYRIAC LETTER SOGDIAN ZHAINwKHAPHwFEaARABIC LETTER BEH WITH THREE DOTS HORIZONTALLY BELOW",
     "xDOT BELOW AND THREE DOTS ABOVExTHREE DOTS POINTING UPWARDS BELOW",
     "~WARDS BELOW AND TWO DOTS ABOVEyWO DOTS BELOW AND DOT ABOVExINVERTED SMALL V BELOWxSMALL V",
     "oHAH WITH TWO DOTS ABOVEyHREE DOTS POINTING UPWARDS BELOW",
     "oDAL WITH TWO DOTS VERTICALLY BELOW AND SMALL TAHxINVERTED SMALL V BELOWoREH WITH STROKE",
     "oSEEN WITH FOUR DOTS ABOVEoAIN WITH TWO DOTS ABOVEyHREE DOTS POINTING DOWNWARDS ABOVE",
     "yWO DOTS VERTICALLY ABOVEoFEH WITH TWO DOTS BELOWyHREE DOTS POINTING UPWARDS BELOW",
     "oKEHEH WITH DOT ABOVEzTHREE DOTS ABOVE;POINTING UPWARDS BELOWoMEEM WITH DOT ABOVE%BELOW",
     "oNOON WITH TWO DOTS BELOWySMALL TAH*VoLAM WITH BARoREH WITH TWO DOTS VERTICALLY ABOVE",
     "xHAMZA ABOVEoSEEN WITH TWO DOTS VERTICALLY ABOVEoHAH WITH SMALL ARABIC LETTER TAH BELOW",
     "~H AND TWO DOTSoSEEN WITH SMALL ARABIC LETTER TAH AND TWO DOTS",
     "oREH WITH SMALL ARABIC LETTER TAH AND TWO DOTSoHAH WITH SMALL ARABIC LETTER TAH ABOVE",
     "oALEF WITH EXTENDED ARABIC-INDIC DIGIT TWO ABOVE~ DIGIT THREE ABOVE",
     "oFARSI YEH WITH EXTENDED ARABIC-INDIC DIGIT TWO ABOVE~INDIC DIGIT THREE ABOVE",
     "~INDIC DIGIT FOUR BELOWoWAW WITH EXTENDED ARABIC-INDIC DIGIT TWO ABOVE~DIGIT THREE ABOVE",
     "oYEH BARREE WITH EXTENDED ARABIC-INDIC DIGIT TWO ABOVE~-INDIC DIGIT THREE ABOVE",
     "oHAH WITH EXTENDED ARABIC-INDIC DIGIT FOUR BELOW",
     "oSEEN WITH EXTENDED ARABIC-INDIC DIGIT FOUR ABOVEyINVERTED VoKAF WITH TWO DOTS ABOVE",
     "aTHAANA LETTER HAAoSHAVIYANIoNOONUoRAAoBAAoLHAVIYANIoKAAFUoALIFUoVAAVUoMEEMUoFAAFUoDHAALU",
     "oTHAAoLAAMUoGAAFUpNAVIYANIoSEENUoDAVIYANIoZAVIYANIoTAVIYANIoYAAoPAVIYANIoJAVIYANI",
     "oCHAVIYANIoTTAAoHHAAoKHAAoTHAALUoZAAoSHEENUpAADHUoDAADHUoTOoZOoAINUoGHAINUoQAAFUoWAAVU",
     "hABAFILIiABAAFILIhIBIFILIhEEBEEFILIhUBUFILIhOOBOOFILIhEBEFILIiYBEYFILIhOBOFILIiABOAFILI",
     "hSUKUNhLETTER NAA"]),
   (0x7c0, [
     "aNKO DIGIT ZEROkONEkTWOlHREEkFOURlIVEkSIXlEVENkEIGHTkNINEeLETTER AlEElIlElUlOOmlDAGBASINNA",
     "lNlBAlPAlTAlJAlCHAlDAlRAmRAlSAlGBAlFAlKAlLAlNA WOLOSOlMAlNYAmAlHAlWAlYAlNYA WOLOSOlJONA JA",
     "qCHAqRAeCOMBINING SHORT HIGH TONEuLOW TONEuRISING TONEoLONG DESCENDING TONEtHIGH TONE",
     "tLOW TONEtRISING TONEoNASALIZATION MARKoDOUBLE DOT ABOVEeHIGH TONE APOSTROPHE",
     "eLOW TONE APOSTROPHEeSYMBOL OO DENNENlGBAKURUNENeCOMMAeEXCLAMATION MARKeLAJANYALAN"]),
   (0x7fd, [
     "aNKO DANTAYALANfOROME SIGNeTAMAN SIGNaSAMARITAN LETTER ALAFrBITrGAMANrDALATrIYrBAArZENrIT",
     "rTITrYUTrKAAFrLABATrMIMrNUNrSINGAATrINrFIrTSAADIYrQUFrRISHrSHANrTAAFkMARK INr-ALAF",
     "pOCCLUSIONpDAGESHlODIFIER LETTER EPENTHETIC YUTlARK EPENTHETIC YUTkVOWEL SIGN LONG EvE",
     "vOVERLONG AAvLONG AAvAAvOVERLONG AvLONG AvAkMODIFIER LETTER SHORT AkVOWEL SIGN SHORT A",
     "vLONG UvUkMODIFIER LETTER IkVOWEL SIGN LONG IvIvOvSUKUNkMARK NEQUDAA"]),
   (0x830, [
     "aSAMARITAN PUNCTUATION NEQUDAAwAFSAAQxNGEDwBAUwATMAAUwSHIYYAALAAkABBREVIATION MARK",
     "kPUNCTUATION MELODIC QITSAwZIQAAwQITSAwZAEFwTURUwARKAANUwSOF MASHFAATwANNAAU"]),
   (0x840, [
     "aMANDAIC LETTER HALQApABqGqDqHpUSHENNApAZpITpATTqKSArqLqMqNqSpINpAPqSZqQqRqSHqTpDUSHENNA",
     "pKADpAINiAFFRICATION MARKiVOCALIZATION MARKiGEMINATION MARK"]),
   (0x85e, ["aMANDAIC PUNCTUATION"]),
   (0x860, ["aSYRIAC LETTER MALAYALAM NGAyJAyNYAyTTAyNNA!NAyBHAyRAyLLA!LAySSA"]),
   (0x870, [
     "aARABIC LETTER ALEF WITH ATTACHED FATHA.TOP RIGHT FATHAyRIGHT MIDDLE STROKE",
     "yLEFT MIDDLE STROKEyATTACHED KASRA.BOTTOM RIGHT KASRA.ROUND DOT ABOVE/IGHT ROUND DOT",
     ".LEFT ROUND DOT.ROUND DOT BELOWyDOT ABOVEyATTACHED TOP RIGHT FATHA AND DOT ABOVE",
     "yRIGHT MIDDLE STROKE AND DOT ABOVEyATTACHED BOTTOM RIGHT KASRA AND DOT ABOVE",
     ".TOP RIGHT FATHA AND LEFT RINGyRIGHT MIDDLE STROKE AND LEFT RING",
     "yATTACHED BOTTOM RIGHT KASRA AND LEFT RING.RIGHT HAMZA.LEFT HAMZA",
     "hTATWEEL WITH OVERSTRUCK HAMZA+WAWuTWO DOTS BELOWhLETTER THIN YEHhBASELINE ROUND DOT",
     "hRAISED ROUND DOThLETTER NOON WITH INVERTED SMALL VoHAH WITH INVERTED SMALL V BELOW",
     "oTAH WITH DOT BELOWxTHREE DOTS BELOWoKEHEH WITH TWO DOTS VERTICALLY BELOWhVERTICAL TAIL"]),
   (0x890, ["aARABIC POUND MARK ABOVEiIASTRE MARK ABOVE"]),
   (0x898, [
     "aARABIC SMALL HIGH WORD AL-JUZnLOW WORD ISHMAAMxMAALAwTASHEELhMADDA WAAJIB",
     "hSUPERSCRIPT ALEF MOKHASSAShDOUBLED MADDAhHALF MADDA OVER MADDA",
     "hLETTER BEH WITH SMALL V BELOWxHAMZA ABOVEoJEEM WITH TWO DOTS ABOVE",
     "oTAH WITH TWO DOTS ABOVEoFEH WITH DOT BELOW AND THREE DOTS ABOVEoQAF WITH DOT BELOW",
     "oLAM WITH DOUBLE BARoMEEM WITH THREE DOTS ABOVEoYEH WITH TWO DOTS BELOW AND HAMZA ABOVE",
     "^DOT ABOVEoREH WITH LOOPoWAW WITH DOT WITHINoROHINGYA YEHoLOW ALEF",
     "oDAL WITH THREE DOTS BELOWoSAD WITH THREE DOTS BELOWoGAF WITH INVERTED STROKEoSTRAIGHT WAW",
     "oZAIN WITH INVERTED V ABOVEoAIN WITH THREE DOTS BELOWoKAF WITH DOT BELOW",
     "oQAF WITH DOT BELOW AND NO DOTS ABOVEoBEH WITH SMALL MEEM ABOVEoPEH WITH SMALL MEEM ABOVE",
     "oTEH WITH SMALL TEH ABOVEoREH WITH SMALL NOON ABOVE",
     "oYEH WITH TWO DOTS BELOW AND SMALL NOON ABOVEoAFRICAN FEHwQAFwNOONoPEH WITH SMALL V",
     "oTEH WITH SMALL VpTEH WITH SMALL VpCHEH WITH SMALL VoKEHEH WITH SMALL V",
     "oGHAIN WITH THREE DOTS ABOVEoAFRICAN QAF WITH THREE DOTS ABOVEoJEEM WITH THREE DOTS ABOVE",
     ":BELOWoLAM WITH SMALL ARABIC LETTER TAH ABOVEoGRAFhSMALL FARSI YEHnHIGH FARSI YEH",
     "sYEH BARREE WITH TWO DOTS BELOWsWORD SAHsZAHhLARGE ROUND DOT ABOVExBELOWhSUKUN BELOW",
     "hLARGE CIRCLE BELOWnROUND DOT INSIDE CIRCLE BELOWhSMALL LOW WAWnHIGH WORD AR-RUBsSADsAIN",
     "sQAFsNOON WITH KASRAnLOW NOON WITH KASRAnHIGH WORD ATH-THALATHAyS-SAJDAyN-NISFxSAKTAxQIF",
     "xWAQFAsFOOTNOTE MARKERsSIGN SAFHAhDISPUTED END OF AYAHhTURNED DAMMA BELOWhCURLY FATHA",
     "nDAMMAnKASRAnFATHATANnDAMMATANnKASRATANhTONE ONE DOT ABOVEmTWO DOTS ABOVEmLOOP ABOVE",
     "mONE DOT BELOWmTWO DOTS BELOWmLOOP BELOWhOPEN FATHATANmDAMMATANmKASRATANhSMALL HIGH WAW",
     "hFATHA WITH RINGsDOT ABOVEhKASRA WITH DOT BELOWhLEFT ARROWHEAD ABOVEhRIGHT ARROWHEAD ABOVE",
     "hLEFT ARROWHEAD BELOWhRIGHT ARROWHEAD BELOWhDOUBLE RIGHT ARROWHEAD ABOVE: WITH DOT",
     "hRIGHT ARROWHEAD ABOVE WITH DOThDAMMA WITH DOThMARK SIDEWAYS NOON GHUNNA",
     "aDEVANAGARI SIGN INVERTED CANDRABINDUqCANDRABINDUqANUSVARAqVISARGAlLETTER SHORT AsAtAsItI",
     "sUtUsVOCALIC R!LsCANDRA EsSHORT EsEsAIsCANDRA OsSHORT OsOsAUsKAtHAsGAtHAsNGAsCAtHAsJAtHA",
     "sNYAsTTAuHAsDDAuHAsNNAsTAtHAsDAtHAsNAtNNAsPAtHAsBAtHAsMAsYAsRAtRAsLAtLAuLAsVAsSHAtSAtAsHA",
     "lVOWEL SIGN OExOElSIGN NUKTAqAVAGRAHAlVOWEL SIGN AAwIxIwUxUwVOCALIC R+RwCANDRA EwSHORT EwE",
     "wAIwCANDRA OwSHORT OwOwAUlSIGN VIRAMAlVOWEL SIGN PRISHTHAMATRA EwAWlOMlSTRESS SIGN UDATTA",
     "xANUDATTAlGRAVE ACCENTlACUTE ACCENTlVOWEL SIGN CANDRA LONG EwUExUElLETTER QAsKHHAsGHHAsZA",
     "sDDDHAsRHAsFAsYYAsVOCALIC RR!LLlVOWEL SIGN VOCALIC L+LlDANDAmOUBLE DANDAmIGIT ZEROrONErTWO",
     "sHREErFOURsIVErSIXsEVENrEIGHTrNINElABBREVIATION SIGNlSIGN HIGH SPACING DOTlLETTER CANDRA A",
     "sOEtOEsAWsUEtUEsMARWARI DDAsZHAsHEAVY YAsGGAsJJAsGLOTTAL STOPsDDDAsBBAaBENGALI ANJI",
     "iSIGN CANDRABINDUnANUSVARAnVISARGA"])]

end TokenTemplate.Unicode
