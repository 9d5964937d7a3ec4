import TokenTemplate.Unicode.Name.Run

/-!
# Names of Indic scripts

The names that version 14 of the standard gives to characters:
the scripts of South Asia.
-/

namespace TokenTemplate.Unicode

/-- Runs of characters with their names. -/
def indicNames : List NameRun :=
  [(0x985, ["aBENGALI LETTER AqApIqIpUqUpVOCALIC RxL"]),
   (0x98f, ["aBENGALI LETTER EpAI"]),
   (0x993, [
     "aBENGALI LETTER OpAUpKAqHApGAqHApNGApCAqHApJAqHApNYApTTArHApDDArHApNNApTAqHApDAqHApNA"]),
   (0x9aa, ["aBENGALI LETTER PAqHApBAqHApMApYApRA"]),
   (0x9b2, ["aBENGALI LETTER LA"]),
   (0x9b6, ["aBENGALI LETTER SHAqSAqApHA"]),
   (0x9bc, ["aBENGALI SIGN NUKTAnAVAGRAHAiVOWEL SIGN AAtIuItUuUtVOCALIC R%R"]),
   (0x9c7, ["aBENGALI VOWEL SIGN EtAI"]),
   (0x9cb, ["aBENGALI VOWEL SIGN OtAUiSIGN VIRAMAiLETTER KHANDA TA"]),
   (0x9d7, ["aBENGALI AU LENGTH MARK"]),
   (0x9dc, ["aBENGALI LETTER RRAqHA"]),
   (0x9df, ["aBENGALI LETTER YYApVOCALIC RRxLLiVOWEL SIGN VOCALIC L%L"]),
   (0x9e6, [
     "aBENGALI DIGIT ZEROoONEoTWOpHREEoFOURpIVEoSIXpEVENoEIGHToNINE",
     "iLETTER RA WITH MIDDLE DIAGONALxLOWER DIAGONALiRUPEE MARKoSIGNiCURRENCY NUMERATOR ONE$TWO",
     "%HREE$FOUR$ONE LESS THAN THE DENOMINATORrDENOMINATOR SIXTEENiISSHARiGANDA MARK",
     "iLETTER VEDIC ANUSVARAiABBREVIATION SIGNiSANDHI MARK"]),
   (0xa01, ["aGURMUKHI SIGN ADAK BINDIoBINDIoVISARGA"]),
   (0xa05, ["aGURMUKHI LETTER ArAqIrIqUrU"]),
   (0xa0f, ["aGURMUKHI LETTER EEqAI"]),
   (0xa13, [
     "aGURMUKHI LETTER OOqAUqKArHAqGArHAqNGAqCArHAqJArHAqNYAqTTAsHAqDDAsHAqNNAqTArHAqDArHAqNA"]),
   (0xa2a, ["aGURMUKHI LETTER PArHAqBArHAqMAqYAqRA"]),
   (0xa32, ["aGURMUKHI LETTER LArLA"]),
   (0xa35, ["aGURMUKHI LETTER VAqSHA"]),
   (0xa38, ["aGURMUKHI LETTER SAqHA"]),
   (0xa3c, ["aGURMUKHI SIGN NUKTA"]),
   (0xa3e, ["aGURMUKHI VOWEL SIGN AAuIvIuUvU"]),
   (0xa47, ["aGURMUKHI VOWEL SIGN EEuAI"]),
   (0xa4b, ["aGURMUKHI VOWEL SIGN OOuAUjSIGN VIRAMA"]),
   (0xa51, ["aGURMUKHI SIGN UDAAT"]),
   (0xa59, ["aGURMUKHI LETTER KHHAqGHHAqZAqRRA"]),
   (0xa5e, ["aGURMUKHI LETTER FA"]),
   (0xa66, [
     "aGURMUKHI DIGIT ZEROpONEpTWOqHREEpFOURqIVEpSIXqEVENpEIGHTpNINEjTIPPIjADDAKjIRIjURA",
     "jEK ONKARjSIGN YAKASHjABBREVIATION SIGN"]),
   (0xa81, ["aGUJARATI SIGN CANDRABINDUoANUSVARAoVISARGA"]),
   (0xa85, ["aGUJARATI LETTER ArAqIrIqUrUqVOCALIC RyLjVOWEL CANDRA E"]),
   (0xa8f, ["aGUJARATI LETTER EqAIjVOWEL CANDRA O"]),
   (0xa93, [
     "aGUJARATI LETTER OqAUqKArHAqGArHAqNGAqCArHAqJArHAqNYAqTTAsHAqDDAsHAqNNAqTArHAqDArHAqNA"]),
   (0xaaa, ["aGUJARATI LETTER PArHAqBArHAqMAqYAqRA"]),
   (0xab2, ["aGUJARATI LETTER LArLA"]),
   (0xab5, ["aGUJARATI LETTER VAqSHArSArAqHA"]),
   (0xabc, ["aGUJARATI SIGN NUKTAoAVAGRAHAjVOWEL SIGN AAuIvIuUvUuVOCALIC R&RuCANDRA E"]),
   (0xac7, ["aGUJARATI VOWEL SIGN EuAIuCANDRA O"]),
   (0xacb, ["aGUJARATI VOWEL SIGN OuAUjSIGN VIRAMA"]),
   (0xad0, ["aGUJARATI OM"]),
   (0xae0, ["aGUJARATI LETTER VOCALIC RRyLLjVOWEL SIGN VOCALIC L&L"]),
   (0xae6, [
     "aGUJARATI DIGIT ZEROpONEpTWOqHREEpFOURqIVEpSIXqEVENpEIGHTpNINEjABBREVIATION SIGN",
     "jRUPEE SIGN"]),
   (0xaf9, [
     "aGUJARATI LETTER ZHAjSIGN SUKUNpHADDAoMADDAHoTHREE-DOT NUKTA ABOVEoCIRCLE NUKTA ABOVE",
     "oTWO-CIRCLE NUKTA ABOVE"]),
   (0xb01, ["aORIYA SIGN CANDRABINDUlANUSVARAlVISARGA"]),
   (0xb05, ["aORIYA LETTER AoAnIoInUoUnVOCALIC RvL"]),
   (0xb0f, ["aORIYA LETTER EnAI"]),
   (0xb13, [
     "aORIYA LETTER OnAUnKAoHAnGAoHAnNGAnCAoHAnJAoHAnNYAnTTApHAnDDApHAnNNAnTAoHAnDAoHAnNA"]),
   (0xb2a, ["aORIYA LETTER PAoHAnBAoHAnMAnYAnRA"]),
   (0xb32, ["aORIYA LETTER LAoLA"]),
   (0xb35, ["aORIYA LETTER VAnSHAoSAoAnHA"]),
   (0xb3c, ["aORIYA SIGN NUKTAlAVAGRAHAgVOWEL SIGN AArIsIrUsUrVOCALIC R!R"]),
   (0xb47, ["aORIYA VOWEL SIGN ErAI"]),
   (0xb4b, ["aORIYA VOWEL SIGN OrAUgSIGN VIRAMA"]),
   (0xb55, ["aORIYA SIGN OVERLINEgAI LENGTH MARKhU LENGTH MARK"]),
   (0xb5c, ["aORIYA LETTER RRAoHA"]),
   (0xb5f, ["aORIYA LETTER YYAnVOCALIC RRvLLgVOWEL SIGN VOCALIC L!L"]),
   (0xb66, [
     "aORIYA DIGIT ZEROmONEmTWOnHREEmFOURnIVEmSIXnEVENmEIGHTmNINEgISSHARgLETTER WA",
     "gFRACTION ONE QUARTERtHALFpTHREE QUARTERSpONE SIXTEENTHtEIGHTHpTHREE SIXTEENTHS"]),
   (0xb82, ["aTAMIL SIGN ANUSVARAlVISARGA"]),
   (0xb85, ["aTAMIL LETTER AoAnIoInUoU"]),
   (0xb8e, ["aTAMIL LETTER EoEnAI"]),
   (0xb92, ["aTAMIL LETTER OoOnAUnKA"]),
   (0xb99, ["aTAMIL LETTER NGAnCA"]),
   (0xb9c, ["aTAMIL LETTER JA"]),
   (0xb9e, ["aTAMIL LETTER NYAnTTA"]),
   (0xba3, ["aTAMIL LETTER NNAnTA"]),
   (0xba8, ["aTAMIL LETTER NAoNNAnPA"]),
   (0xbae, ["aTAMIL LETTER MAnYAnRAoRAnLAoLApLAnVAnSHAoSAoAnHA"]),
   (0xbbe, ["aTAMIL VOWEL SIGN AArIsIrUsU"]),
   (0xbc6, ["aTAMIL VOWEL SIGN EsErAI"]),
   (0xbca, ["aTAMIL VOWEL SIGN OsOrAUgSIGN VIRAMA"]),
   (0xbd0, ["aTAMIL OM"]),
   (0xbd7, ["aTAMIL AU LENGTH MARK"]),
   (0xbe6, [
     "aTAMIL DIGIT ZEROmONEmTWOnHREEmFOURnIVEmSIXnEVENmEIGHTmNINEgNUMBER TENnONE HUNDRED",
     "rTHOUSANDgDAY SIGNgMONTH SIGNgYEAR SIGNgDEBIT SIGNgCREDIT SIGNgAS ABOVE SIGNgRUPEE SIGN",
     "gNUMBER SIGN"]),
   (0xc00, [
     "aTELUGU SIGN COMBINING CANDRABINDU ABOVEnANDRABINDUmANUSVARAmVISARGA",
     "mCOMBINING ANUSVARA ABOVEhLETTER ApAoIpIoUpUoVOCALIC RwL"]),
   (0xc0e, ["aTELUGU LETTER EpEoAI"]),
   (0xc12, [
     "aTELUGU LETTER OpOoAUoKApHAoGApHAoNGAoCApHAoJApHAoNYAoTTAqHAoDDAqHAoNNAoTApHAoDApHAoNA"]),
   (0xc2a, ["aTELUGU LETTER PApHAoBApHAoMAoYAoRApRAoLApLAqLAoVAoSHApSApAoHA"]),
   (0xc3c, ["aTELUGU SIGN NUKTAmAVAGRAHAhVOWEL SIGN AAsItIsUtUsVOCALIC R$R"]),
   (0xc46, ["aTELUGU VOWEL SIGN EtEsAI"]),
   (0xc4a, ["aTELUGU VOWEL SIGN OtOsAUhSIGN VIRAMA"]),
   (0xc55, ["aTELUGU LENGTH MARKhAI LENGTH MARK"]),
   (0xc58, ["aTELUGU LETTER TSAoDZAoRRRA"]),
   (0xc5d, ["aTELUGU LETTER NAKAARA POLLU"]),
   (0xc60, ["aTELUGU LETTER VOCALIC RRwLLhVOWEL SIGN VOCALIC L$L"]),
   (0xc66, ["aTELUGU DIGIT ZEROnONEnTWOoHREEnFOURoIVEnSIXoEVENnEIGHTnNINE"]),
   (0xc77, [
     "aTELUGU SIGN SIDDHAMhFRACTION DIGIT ZERO FOR ODD POWERS OF FOURwONE FOR ODD POWERS OF FOUR",
     "wTWO FOR ODD POWERS OF FOURxHREE FOR ODD POWERS OF FOURwONE FOR EVEN POWERS OF FOUR",
     "wTWO FOR EVEN POWERS OF FOURxHREE FOR EVEN POWERS OF FOURhSIGN TUUMU",
     "aKANNADA SIGN SPACING CANDRABINDUnCANDRABINDUnANUSVARAnVISARGAnSIDDHAMiLETTER AqApIqIpUqU",
     "pVOCALIC RxL"]),
   (0xc8e, ["aKANNADA LETTER EqEpAI"]),
   (0xc92, [
     "aKANNADA LETTER OqOpAUpKAqHApGAqHApNGApCAqHApJAqHApNYApTTArHApDDArHApNNApTAqHApDAqHApNA"]),
   (0xcaa, ["aKANNADA LETTER PAqHApBAqHApMApYApRAqRApLAqLA"]),
   (0xcb5, ["aKANNADA LETTER VApSHAqSAqApHA"]),
   (0xcbc, ["aKANNADA SIGN NUKTAnAVAGRAHAiVOWEL SIGN AAtIuItUuUtVOCALIC R%R"]),
   (0xcc6, ["aKANNADA VOWEL SIGN EuEtAI"]),
   (0xcca, ["aKANNADA VOWEL SIGN OuOtAUiSIGN VIRAMA"]),
   (0xcd5, ["aKANNADA LENGTH MARKiAI LENGTH MARK"]),
   (0xcdd, ["aKANNADA LETTER NAKAARA POLLUpFA"]),
   (0xce0, ["aKANNADA LETTER VOCALIC RRxLLiVOWEL SIGN VOCALIC L%L"]),
   (0xce6, ["aKANNADA DIGIT ZEROoONEoTWOpHREEoFOURpIVEoSIXpEVENoEIGHToNINE"]),
   (0xcf1, ["aKANNADA SIGN JIHVAMULIYAnUPADHMANIYA"]),
   (0xd00, [
     "aMALAYALAM SIGN COMBINING ANUSVARA ABOVEqANDRABINDUpANUSVARApVISARGAkLETTER VEDIC ANUSVARA",
     "rAsArIsIrUsUrVOCALIC RzL"]),
   (0xd0e, ["aMALAYALAM LETTER EsErAI"]),
   (0xd12, [
     "aMALAYALAM LETTER OsOrAUrKAsHArGAsHArNGArCAsHArJAsHArNYArTTAtHArDDAtHArNNArTAsHArDAsHArNA",
     "sNNArPAsHArBAsHArMArYArRAsRArLAsLAtLArVArSHAsSAsArHArTTTAkSIGN VERTICAL BAR VIRAMA",
     "pCIRCULAR VIRAMApAVAGRAHAkVOWEL SIGN AAvIwIvUwUvVOCALIC R*R"]),
   (0xd46, ["aMALAYALAM VOWEL SIGN EwEvAI"]),
   (0xd4a, ["aMALAYALAM VOWEL SIGN OwOvAUkSIGN VIRAMAkLETTER DOT REPHkSIGN PARA"]),
   (0xd54, [
     "aMALAYALAM LETTER CHILLU MyYyLLLkAU LENGTH MARKkFRACTION ONE ONE-HUNDRED-AND-SIXTIETH",
     "xFORTIETHtTHREE EIGHTIETHStONE TWENTIETHyENTHtTHREE TWENTIETHStONE FIFTHkLETTER ARCHAIC II",
     "rVOCALIC RRzLLkVOWEL SIGN VOCALIC L*L"]),
   (0xd66, [
     "aMALAYALAM DIGIT ZEROqONEqTWOrHREEqFOURrIVEqSIXrEVENqEIGHTqNINEkNUMBER TENrONE HUNDRED",
     "vTHOUSANDkFRACTION ONE QUARTERxHALFtTHREE QUARTERStONE SIXTEENTHxEIGHTHtTHREE SIXTEENTHS",
     "kDATE MARKkLETTER CHILLU NNzyRRyLzLyK"]),
   (0xd81, ["aSINHALA SIGN CANDRABINDUnANUSVARAYAnVISARGAYA"]),
   (0xd85, [
     "aSINHALA LETTER AYANNAqAYANNAqEYANNArEYANNApIYANNAqIYANNApUYANNAqUYANNApIRUYANNAsUYANNA",
     "qLUYANNAsUYANNApEYANNAqEYANNApAIYANNApOYANNAqOYANNApAUYANNA"]),
   (0xd9a, [
     "aSINHALA LETTER ALPAPRAANA KAYANNApMAHAAPRAANA KAYANNApALPAPRAANA GAYANNA",
     "pMAHAAPRAANA GAYANNApKANTAJA NAASIKYAYApSANYAKA GAYANNApALPAPRAANA CAYANNA",
     "pMAHAAPRAANA CAYANNApALPAPRAANA JAYANNApMAHAAPRAANA JAYANNApTAALUJA NAASIKYAYA",
     "xSANYOOGA NAAKSIKYAYApSANYAKA JAYANNApALPAPRAANA TTAYANNApMAHAAPRAANA TTAYANNA",
     "pALPAPRAANA DDAYANNApMAHAAPRAANA DDAYANNAqUURDHAJA NAYANNApSANYAKA DDAYANNA",
     "pALPAPRAANA TAYANNApMAHAAPRAANA TAYANNApALPAPRAANA DAYANNApMAHAAPRAANA DAYANNA",
     "pDANTAJA NAYANNA"]),
   (0xdb3, [
     "aSINHALA LETTER SANYAKA DAYANNApALPAPRAANA PAYANNApMAHAAPRAANA PAYANNApALPAPRAANA BAYANNA",
     "pMAHAAPRAANA BAYANNArYANNApAMBA BAYANNApYAYANNApRAYANNA"]),
   (0xdbd, ["aSINHALA LETTER DANTAJA LAYANNA"]),
   (0xdc0, [
     "aSINHALA LETTER VAYANNApTAALUJA SAYANNApMUURDHAJA SAYANNApDANTAJA SAYANNApHAYANNA",
     "pMUURDHAJA LAYANNApFAYANNA"]),
   (0xdca, ["aSINHALA SIGN AL-LAKUNA"]),
   (0xdcf, [
     "aSINHALA VOWEL SIGN AELA-PILLAtKETTI AEDA-PILLAtDIGA AEDA-PILLAtKETTI IS-PILLA",
     "tDIGA IS-PILLAtKETTI PAA-PILLA"]),
   (0xdd6, ["aSINHALA VOWEL SIGN DIGA PAA-PILLA"]),
   (0xdd8, [
     "aSINHALA VOWEL SIGN GAETTA-PILLAtKOMBUVAtDIGA KOMBUVAtKOMBU DEKAyVA HAA AELA-PILLA",
     "+DIGA AELA-PILLA+GAYANUKITTAtGAYANUKITTA"]),
   (0xde6, ["aSINHALA LITH DIGIT ZEROtONEtTWOuHREEtFOURuIVEtSIXuEVENtEIGHTtNINE"]),
   (0xdf2, ["aSINHALA VOWEL SIGN DIGA GAETTA-PILLA!YANUKITTAiPUNCTUATION KUNDDALIYA"])]

end TokenTemplate.Unicode
