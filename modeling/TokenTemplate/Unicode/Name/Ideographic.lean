import TokenTemplate.Unicode.Name.Run

/-!
# Names of ideographic scripts

The names that version 14 of the standard gives to characters:
hieroglyphs and large syllabaries.
-/

namespace TokenTemplate.Unicode

/-- Runs of characters with their names. -/
def ideographicNames : List NameRun :=
  [(0x14400, [
     "aANATOLIAN HIEROGLYPH A001y2y3y4y5y6y7y8y9x10zAy1y2y3y4y5y6y7y8y9x20y1y2y3y4y5y6zAy7y8y9",
     "x30y1y2y3y4y5y6y7y8y9zAx40y1zAy2y3y4y5zAy6zAzBy7y8y9x50y1y2y3y4y5y6y7y8y9x60y1y2y3y4y5y6zA",
     "zBzCy7y8y9x70y1y2y3y4y5y6y7y8y9x80y1y2y3y4y5y6y7y8y9x90y1y2y3y4y5y6y7zAy8zAy9w100zAy1zAy2",
     "zAy3y4zAzBzCy5zAzBy6y7zAzBzCy8y9x10zAzBy1y2y3y4y5zAy6y7y8y9x20y1y2y3y4y5zAy6y7y8y9x30y1y2",
     "y3y4y5zAy6y7y8y9x40y1y2y3y4y5y6y7y8y9x50y1y2y3y4y5y6y7y8y9x60y1y2y3y4y5y6y7y8y9x70y1y2y3y4",
     "y5y6y7y8y9x80y1y2y3y4y5y6y7y8y9x90y1y2y3y4y5y6y7y8y9w200y1y2zAzBy3y4y5y6y7zAy8y9zAx10y1y2",
     "y3y4y5zAy6zAy7y8y9x20y1y2y3y4y5y6y7zAy8y9x30y1y2y3y4y5y6y7y8y9x40y1y2y3y4y5y6y7y8y9x50y1y2",
     "y3y4y5y6y7y8y9x60y1y2y3y4y5y6y7zAy8y9x70y1y2y3y4y5y6y7y8y9x80y1y2y3y4y5y6y7y8y9zAx90y1y2y3",
     "y4zAy5y6y7y8y9zAw300y1y2y3y4y5y6y7y8y9zAx10y1y2y3y4y5y6y7y8y9x20y1y2y3y4y5y6y7y8y9zAx30y1",
     "y2AzBzCy3y4y5y6zAzBzCy7y8y9x40y1y2y3y4y5y6y7y8y9x50y1y2y3y4y5y6y7y8y9zAx60y1y2y3y4zAy5y6y7",
     "y8zAy9x70y1zAy2y3y4y5y6y7y8y9x80y1zAy2y3 RA OR RIzAy4y5y6zAy7y8y9x90y1y2y3 EIGHTy4y5y6y7y8",
     "y9w400y1y2y3y4y5y6y7y8y9x10 BEGIN LOGOGRAM MARKzA END LOGOGRAM MARKy1y2y3y4y5y6y7y8y9x20y1",
     "y2y3y4y5y6y7y8y9x30y1y2y3y4y5y6y7y8y9x40y1y2y3y4y5y6y7y8y9x50zAy1y2y3y4y5y6y7zAy8y9x60y1y2",
     "y3y4y5y6y7y8y9x70y1y2y3y4y5y6y7y8y9x80y1y2y3y4y5y6y7y8y9x90y1y2y3y4y5y6y7w501y2y3y4y5y6y7",
     "y8y9x10y1y2y3y4y5y6y7y8y9x20y1y2y3y4y5y6y7y8y9x30"]),
   (0x16800, [
     "aBAMUM LETTER PHASE-A NGKUE MFONvGBIEE FONvPON MFON PIPAEMGBIEE;BAvNAA MFONvSHUENSHUET",
     "vTITA MFONvNZA MFONvSHINDA PA NJIvPON PA NJI PIPAEMGBIEE=BAvMAEMBGBIEEvTU MAEMBAvNGANGU",
     "vMAEMVEUXxNSUAEwVEUAENGAMvSEUNYAMvNTOQPENvKEUKEUTNDAvNKINDIvSUUvNGKUENZEUMvLAPAQwET KUT",
     "vNTAP MFAAvMAEKEUPvPASHAEvGHEUAERAEvPAMSHAEvMON NGGEUAETvNZUN MEUTvU YUQ NAEvGHEUAEGHEUAE",
     "vNTAP NTAAvSISAvMGBASAwEUNJOMNDEUQwOOMPUQvKAFAvPA LEERAEWAvNDA LEERAEWAvPETvMAEMKPENvNIKA",
     "vPUPvTUAEPvLUAEPvSONJAMvTEUTEUWENvMAENYIvKETvNDAANGGEUAETvKUOQvMOOMEUTvSHUMvLOMMAEvFIRI",
     "vROMvKPOQvSOQvMAP PIEETvSHIRAEvNTAPvSHOQ NSHUT YUMvNYIT MONGKEUAEQvPAARAEvNKAARAEvUNKNOWN",
     "vNGGENvMAESIvNJAMvMBANYIvNYETvTEUAENvSOTvPAAMvNSHIEEvMAEMvNYIvKAQvNSHAvVEEvLUvNENwAQvMBAQ",
     "tB NSHUETvTU MAEMGBIEEvSIEEwET TUvLOM NTEUMvMBA MAELEEvKIEEMvYEURAEvMBAARAEvKAMvPEESHI",
     "vYAFU LEERAEWAvLAM NSHUT NYAMvNTIEE SHEUOQwDU NJAAvGHEUGHEUAEMvPITvTU NSIEEvSHET NJAQ",
     "yUAEQTUvMFON TEUAEQwBIT MBAAKETvNYI NTEUMvKEUPUQvGHEUGHENvKEUYEUXvLAANAEvPARUMvVEUM",
     "vNGKINDI MVOPxGEU MBUvWUAETvSAKEUAEvTAAMvMEUQvNGGUOQ$ LARGEvMFIYAQvSUEvMBEURIwONTIEEN",
     "vNYAEMAEvPUNGAAMvMEUT NGGEETvFEUXvMBUOQvFEEvKEUAEMvMA NJEUAENA!UQAvLETvNGGAAMwSENvMAvKIQ",
     "vNGOMtC NGKUE MAEMBAwZAvYUMvWANGKUOQvNGGENwDEUAEREEwGKAQvGHARAEvMBEEKEETvGBAYI",
     "vNYIR MKPARAQ MEUNwTU MBITvMBEUMvPIRIEENvNDOMBUvMBAA CABBAGE-TREEvKEUSHEUAEPvGHAPvKEUKAQ",
     "vYU MUOMAEvNZEUMvMBUEvNSEUAENvMBITvYEUQvKPARAQwAAvSEUXvNDIDAvTAASHAEvNJUEQvTITA YUEvSUAET",
     "vNGGUAEN NYAMvVEUXvNANSANAQvMA KEUAERIvNTAAwGGUONvLAPvMBIRIEENwGBASAQvNTEUNGBAvTEUTEUX",
     "vNGGUMvFUEvNDEUTwSAxHAQvBUNGvVEUAEPENvMBERAEvRUvNJAEMvLAMvTITUAEPvNSUOT NGOMwJEEEEvKET",
     "vNGGUvMAESIwBUAEMvLUvKUTvNJAMwGOMvWUPvNGGUEETwSOMwTENvKUOP NKAARAEvNSUNwDAMvMA NSIEEvYAA",
     "vNDAPvSHUEQwETFONvMBIwAEMBAwBANYIvKEUSEUXvMBEUXvKEUMvMBAA PICKETvYUWOQvNJEUXvMIEEwUAEvSHIQ",
     "vKEN LAWzFATIGUEvNGAQwAQvLIQvPINwENvTETtD MBUOvWAPvNJIvMFONvNJIEEvLIEEvNJEUTwSHEEwGGAAMAE",
     "wYAMvWUAENvNGKUNvSHEEvNGKAPvKEUAETMEUNvTEUTvSHEUAEvNJAPvSUEvKETvYAEMMAEvKUOMvSAPvMFEUT",
     "vNDEUXvMALEERIwEUTvSEUAEQvYENvNJEUAEMvKEUOT MBUAEvNGKEURIvTUvGHAAvNGKYEEvFEUFEUAETvNDEE",
     "vMGBOFUMvLEUAEPvNDONvMONIwGBEUNvPUUTvMGBIEEwFOvLUMvNSIEEPvMBAAvKWAETvNYETvTEUAENvSOTvYUWOQ",
     "vKEUMvRAEMvTEEEEvNGKEUAEQvMFEUAEvNSIEETvKEUPvPIPwEUTAEvNYUEvLETvNGGAAMvMFIEEvNGGWAENvYUOM",
     "vPAPvYUOPvNDAMwTEUMvSUAEvKUNvNGGEUXxKIEEvTUOTvMEUNvKUQvNSUMvTEUNvMAENJETvNGGAPvLEUMvNGGUOM",
     "wSHUTwJUEQvGHEUAEvKUvREN OLDvTAEwOQvNYIvRIIvLEEEEvMEEEEwvSUUvMUvSHIIxEUXvKYEEvNUvSHUvNTEE",
     "vPEEvNIvSHOQvPUQvMVOPvLOQvREN MUCHvTIvNTUUvMBAA SEVENvSAQvFAAtE NDAPvTOONvMBEUMvLAPvVOM",
     "vLOONvPAAvSOMvRAQvNSHUOPwDUNvPUAEvTAMvNGKAvKPEUXvWUOvSEEvNGGEUAETvPAAMvTOOvKUOPvLOMvNSHIEE",
     "wGOPvMAEMvNGKEUXxOQwSHUEvRIMGBAvNJEUXvPEEMvSAAvNGGURAEvMGBAvGHEUXvNGKEUAEMwJAEMLIvMAPvLOOT",
     "vNGGEEEEwDIQvTAEN NTEUMvSETvPUMvNDAA SOFTNESSwGGUAESHAE NYAMvYIEEvGHEUNvTUAEvYEUAEvPO",
     "vTUMAEvKEUAEvSUAENvTEUAEQvVEUAEvWEUXvLAAMvPUvTAAQvGHAAMAEvNGEUREUTvSHEUAEQvMGBENwBEEvNZAQ",
     "wKOMvGBETvTUMvKUETvYAPvNYI CLEAVERvYITvMFEUQvNDIAQvPIEEQvYUEQvLEUAEMvFUEvGBEUXvNGKUPvKET",
     "vMAEvNGKAAMIvGHETvFAvNTUMvPEUTvYEUMvNGGEUAEwYI BETWEENwZUQvPOONvMIEEvFUETvNAEvMUAEvGHEUAE",
     "vFU IvMVIvPUAQvNGKUMvKUTvPIETvNTAPvYEUAETvNGGUPvPA PEOPLEvFU CALLwOMvNJEEvAvTOQvOvIvLAQ",
     "vPA PLURALvTAAxQvNDAA MY HOUSEvSHIQvYEUXvNGUAEvYUAENwOQ SWIMMINGzCOVERwUQxNvKEUXvPEUX",
     "vNJEE EPOCHvPUEvWUEvFEEvVEEvLUvMIvREUXwAEvNGUAETxAvSHOyQvFU REMEDYvNAvPIvLOQvKOvMENwAxQ",
     "vTEUvKIvMONvTENvFAQvGHOMtF KAvUvKUvEEvREEvTAEvNYIvLAvRIIxEEvMEEEEvTAAvNDAAwJAEMvMvSUUwHII",
     "wIwEUXvKYEEwETvNUAExwJUAEvYOQvSHUvYAvNSHAvPEUXvNTEEvWUEvPEEvRUvNIvREUXvKENvNGKWAENxGAvSHO",
     "vPUAEvFOMvWAvLIwOQvKOvMBENvRENvMAwOwBAAvTETvKPAvSAMBAvVUEQ"]),
   (0x16a40, [
     "aMRO LETTER TAlNGIlYOlMIMlBAlDAlAlPHIlKHAIlHAOlDAIlCHUlKEAAElOLlMAEMlNINlPAlOOmlROlSHI",
     "lTHEAlEAlWAlElKOlLANnlHAIlRIlTEK"]),
   (0x16a60, ["aMRO DIGIT ZEROkONEkTWOlHREEkFOURlIVEkSIXlEVENkEIGHTkNINE"]),
   (0x16a6e, [
     "aMRO DANDAfOUBLE DANDAaTANGSA LETTER OZpCpQpXoAZpCpQpXoVZpCpQpXoEZpCpQpXoIZpCpQpXoUZpCpQpX",
     "oAWZqCqQqXoUIZqCqQqXoFINAL NGoLONG UEXoSHORT UEZuAWXoUECqZqQqXpIUZrCrQrXoMZpCpQpXoKApHAoGA",
     "oNGAoSAoYAoWAoPAoNYAoPHAoBAoMAoNAoHAoLAoHTAoTAoDAoRAoNHAoSHAoCAoTSAoGHAoHTTAoTHAoXAoFAoDHA",
     "oCHAoZA"]),
   (0x16ac0, ["aTANGSA DIGIT ZEROnONEnTWOoHREEnFOURoIVEnSIXoEVENnEIGHTnNINE"]),
   (0x16ad0, [
     "aBASSA VAH LETTER ENNIrKArSErFArMBErYIErGAHrDHIIrKPAHrJOrHWAHrWArZOrGBUrDOrCErUWUrTOrBArVU",
     "rYEINrPArWADDArArOsOrUrEEsrI"]),
   (0x16af0, [
     "aBASSA VAH COMBINING HIGH TONEuLOW TONEuMID TONEuLOW-MID TONEuHIGH-LOW TONEkFULL STOP"]),
   (0x16b00, [
     "aPAHAWH HMONG VOWEL KEEBwVuIBvVuAUBwVuUBvVuEBvVuAIBwVuOOBwVuAWBwVuUABwVuOBvVuIABwVuABvVuWB",
     "vVuAABwVnCONSONANT VAUxNTSAUxLAUxHAUxNLAUxRAUxNKAUxQHAUxYAUxHLAUxMAUxCHAUxNCHAUxHNAUxPLHAU",
     "xNTHAUyAUxAUxXAUxCAUnMARK CIM TUBwSOwKESxHAVwSUAMwHOMwTAUMnSIGN VOS THOMxSHAB CEEB",
     "sCIM CHEEMsVOS THIABwFEEMsXYEEM NTXIVyRHOyTOVyFAIBsVOS SEEVsMEEJ SUABsVOS NRUAsIB YAMsXAUS",
     "sCIM TSOV ROG"]),
   (0x16b50, ["aPAHAWH HMONG DIGIT ZEROtONEtTWOuHREEtFOURuIVEtSIXuEVENtEIGHTtNINE"]),
   (0x16b5b, [
     "aPAHAWH HMONG NUMBER TENSuHUNDREDSuTEN THOUSANDSuMILLIONSuHUNDRED MILLIONSuTEN BILLIONS",
     "vRILLIONS"]),
   (0x16b63, [
     "aPAHAWH HMONG SIGN VOS LUBsXYOOsHLIsTHIRD-STAGE HLIsZWJ THAJsHNUBsNQIGsXIABsNTUJsAV",
     "sTXHEEJ CEEVsMEEJ TSEEBsTAUsLOSsMUSsCIM HAIS LUS NTOG NTOGwCUAM TSHOOJwTXWV! CHWVwPUB DAWB",
     "wNRES TOS"]),
   (0x16b7d, [
     "aPAHAWH HMONG CLAN SIGN TSHEEJxYEEGxLISyAUJxXYOOJxKOOxHAWJxMUASxTHOJySABxPHABxKHABxHAMxVAJ",
     "xFAJxYAJxTSWBxKWMxVWJ"]),
   (0x16e40, [
     "aMEDEFAIDRIN CAPITAL LETTER M$S$V$W$ATIU$Z$KP$P$T$G$F$I$K$A$J$E$B$C$U$YU$L$Q$HP$NY$X$D$OE",
     "$N$R$O$AI$YmSMALL LETTER MzSzVzWzATIUzZzKPzPzTzGzFzIzKzAzJzEzBzCzUzYUzLzQzHPzNYzXzDzOEzNzR",
     "zOzAIzYmDIGIT ZEROsONEsTWOtHREEsFOURtIVEsSIXtEVENsEIGHTsNINEmNUMBER TENtELEVENtTWELVE",
     "uHIRTEENtFOURTEENuIFTEENtSIXTEENuEVENTEENtEIGHTEENtNINETEENmDIGIT ONE ALTERNATE FORM",
     "sTWO ALTERNATE FORMtHREE ALTERNATE FORMmCOMMAmFULL STOPmSYMBOL AIVAmEXCLAMATION OH"]),
   (0x16f00, [
     "aMIAO LETTER PAmBAmYI PAmPLAmMAnHAmARCHAIC MAmFAmVAnFAmTAmDAmYI TTAqAmTTAmDDAmNAnHAmYI NNA",
     "mARCHAIC NAmNNAoHAmLAnYAnHAoYAmTLHAmDLHAmTLHYAmDLHYAmKAmGAmYI KAmQAnGAmNGAoHAmARCHAIC NGA",
     "mHAmXAmGHAoHAmTSSAmDZZAmNYAoHAmTSHAmDZHAmYI TSHApDZHAmREFORMED TSHAmSHAnSAmZHAnSHAmTSAmDZA",
     "mYI TSAmSAmZAnSAnZAoSAmARCHAIC ZZAmZZYAoSYAmWAmAHmHHAmBRImSYImDZYImTEnSEmRTE"]),
   (0x16f4f, [
     "aMIAO SIGN CONSONANT MODIFIER BARfLETTER NASALIZATIONfSIGN ASPIRATIONkREFORMED VOICING",
     "tASPIRATIONfVOWEL SIGN ArArHHrNsGqOrOqWOrqErNsGqOEYqIrAsNtGrOrErIrUrNGqUrAsNtGrUrEIrNGqYrI",
     "qAEsEqERRqROUNDED ERRqERqROUNDED ERqAIqEIqAUqOUqNrGqUOGqYUIqOGrERqVWqIGqEAqIONGqUI"]),
   (0x16f8f, [
     "aMIAO TONE RIGHTkTOP RIGHTkABOVEkBELOWfLETTER TONE-2r3r4r5r6r7r8mREFORMED TONE-1!2!4!5!6!8"]),
   (0x16fe0, [
     "aTANGUT ITERATION MARKaNUSHU ITERATION MARKaOLD CHINESE HOOK MARKmITERATION MARK",
     "aKHITAN SMALL SCRIPT FILLER"]),
   (0x16ff0, ["aVIETNAMESE ALTERNATE READING MARK CA/NHAY"]),
   (0x18800, [
     "aTANGUT COMPONENT-001t2t3t4t5t6t7t8t9s10t1t2t3t4t5t6t7t8t9s20t1t2t3t4t5t6t7t8t9s30t1t2t3t4",
     "t5t6t7t8t9s40t1t2t3t4t5t6t7t8t9s50t1t2t3t4t5t6t7t8t9s60t1t2t3t4t5t6t7t8t9s70t1t2t3t4t5t6t7",
     "t8t9s80t1t2t3t4t5t6t7t8t9s90t1t2t3t4t5t6t7t8t9r100t1t2t3t4t5t6t7t8t9s10t1t2t3t4t5t6t7t8t9",
     "s20t1t2t3t4t5t6t7t8t9s30t1t2t3t4t5t6t7t8t9s40t1t2t3t4t5t6t7t8t9s50t1t2t3t4t5t6t7t8t9s60t1",
     "t2t3t4t5t6t7t8t9s70t1t2t3t4t5t6t7t8t9s80t1t2t3t4t5t6t7t8t9s90t1t2t3t4t5t6t7t8t9r200t1t2t3",
     "t4t5t6t7t8t9s10t1t2t3t4t5t6t7t8t9s20t1t2t3t4t5t6t7t8t9s30t1t2t3t4t5t6t7t8t9s40t1t2t3t4t5t6",
     "t7t8t9s50t1t2t3t4t5t6t7t8t9s60t1t2t3t4t5t6t7t8t9s70t1t2t3t4t5t6t7t8t9s80t1t2t3t4t5t6t7t8t9",
     "s90t1t2t3t4t5t6t7t8t9r300t1t2t3t4t5t6t7t8t9s10t1t2t3t4t5t6t7t8t9s20t1t2t3t4t5t6t7t8t9s30t1",
     "t2t3t4t5t6t7t8t9s40t1t2t3t4t5t6t7t8t9s50t1t2t3t4t5t6t7t8t9s60t1t2t3t4t5t6t7t8t9s70t1t2t3t4",
     "t5t6t7t8t9s80t1t2t3t4t5t6t7t8t9s90t1t2t3t4t5t6t7t8t9r400t1t2t3t4t5t6t7t8t9s10t1t2t3t4t5t6",
     "t7t8t9s20t1t2t3t4t5t6t7t8t9s30t1t2t3t4t5t6t7t8t9s40t1t2t3t4t5t6t7t8t9s50t1t2t3t4t5t6t7t8t9",
     "s60t1t2t3t4t5t6t7t8t9s70t1t2t3t4t5t6t7t8t9s80t1t2t3t4t5t6t7t8t9s90t1t2t3t4t5t6t7t8t9r500t1",
     "t2t3t4t5t6t7t8t9s10t1t2t3t4t5t6t7t8t9s20t1t2t3t4t5t6t7t8t9s30t1t2t3t4t5t6t7t8t9s40t1t2t3t4",
     "t5t6t7t8t9s50t1t2t3t4t5t6t7t8t9s60t1t2t3t4t5t6t7t8t9s70t1t2t3t4t5t6t7t8t9s80t1t2t3t4t5t6t7",
     "t8t9s90t1t2t3t4t5t6t7t8t9r600t1t2t3t4t5t6t7t8t9s10t1t2t3t4t5t6t7t8t9s20t1t2t3t4t5t6t7t8t9",
     "s30t1t2t3t4t5t6t7t8t9s40t1t2t3t4t5t6t7t8t9s50t1t2t3t4t5t6t7t8t9s60t1t2t3t4t5t6t7t8t9s70t1",
     "t2t3t4t5t6t7t8t9s80t1t2t3t4t5t6t7t8t9s90t1t2t3t4t5t6t7t8t9r700t1t2t3t4t5t6t7t8t9s10t1t2t3",
     "t4t5t6t7t8t9s20t1t2t3t4t5t6t7t8t9s30t1t2t3t4t5t6t7t8t9s40t1t2t3t4t5t6t7t8t9s50t1t2t3t4t5t6",
     "t7t8t9s60t1t2t3t4t5t6t7t8"]),
   (0x1aff0, ["aKATAKANA LETTER MINNAN TONE-2%3%4%5"]),
   (0x1aff5, ["aKATAKANA LETTER MINNAN TONE-7%8xNASALIZED TONE-1=2=3=4=5"]),
   (0x1affd, ["aKATAKANA LETTER MINNAN NASALIZED TONE-7=8"]),
   (0x1b000, [
     "aKATAKANA LETTER ARCHAIC EaHIRAGANA LETTER ARCHAIC YEbENTAIGANA LETTER A-1u2u3uWOsI-1u2u3",
     "u4sU-1u2u3u4u5sE-2u3u4u5u6sO-1u2u3sKA-1v2v3v4v5v6v7v8v9v10w1vKEtI-1v2v3v4v5v6v7v8tU-1v2v3",
     "v4v5v6v7tE-1v2v3v4v5v6tO-1v2v3vKIsSA-1v2v3v4v5v6v7v8tI-1v2v3v4v5v6tU-1v2v3v4v5v6v7v8tE-1v2",
     "v3v4v5tO-1v2v3v4v5v6v7sTA-1v2v3v4tI-1v2v3v4v5v6v7tU-1v2v3v4vTOtE-1v2v3v4v5v6v7v8v9tO-1v2v3",
     "v4v5v6vRAsNA-1v2v3v4v5v6v7v8v9tI-1v2v3v4v5v6v7vTEtU-1v2v3tE-1v2v3v4v5v6vKOtO-1v2v3v4v5",
     "sHA-1v2v3v4v5v6v7v8v9v10w1tI-1v2v3v4v5v6v7tU-1v2v3tE-1v2v3v4v5v6v7tO-1v2v3v4v5v6v7v8sMA-1",
     "v2v3v4v5v6v7tI-1v2v3v4v5v6v7tU-1v2v3v4tE-1v2vMAtO-1v2v3v4v5v6sYA-1v2v3v4v5vYOtU-1v2v3v4",
     "tO-1v2v3v4v5v6sRA-1v2v3v4tI-1v2v3v4v5v6v7tU-1v2v3v4v5v6tE-1v2v3v4tO-1v2v3v4v5v6sWA-1v2v3v4",
     "v5tI-1v2v3v4v5tE-1v2v3v4tO-1v2v3v4v5v6v7sN-MU-MO-1!2bIRAGANA LETTER ARCHAIC WU",
     "aKATAKANA LETTER ARCHAIC YIzEyWU"]),
   (0x1b150, ["aHIRAGANA LETTER SMALL WIxExO"]),
   (0x1b164, ["aKATAKANA LETTER SMALL WIxExOwN"]),
   (0x1bc00, [
     "aDUPLOYAN LETTER HqXqPqTqFqKqLqBqDqVqGqRqP NqD SqF NqK MqR SqTHqSLOAN DHqDHqKKqSLOAN JqHL",
     "qLHqRHqMqNqJqSqM NqN MqJ MqS JqM WITH DOTqN WITH DOTqJ WITH DOT!S INSIDE AND ABOVE",
     "qS WITH DOT! BELOWqM SqN SqJ SqS SqM N SqN M SqJ M SqS J SqJ S WITH DOTsNt SqS Tt RsPt R",
     "qT SsR SqWrHr RqS NsMqK R SqG R SqS Kt RqAqSLOAN OWqOArqAOUqIqEqIEqSHORT IqUIqEEqSLOAN EH",
     "qROMANIAN IqSLOAN EEqLONG IqYEqUqEUqXWqU NqLONG UqROMANIAN UqUHqSLOAN UqOOHrWrUqWArOrIrEI",
     "rOWqNASAL UwOwIwAqPERNIN ANyMqSLOAN ENwANwONqVOCALIC M"]),
   (0x1bc70, [
     "aDUPLOYAN AFFIX LEFT HORIZONTAL SECANTpMID HORIZONTAL SECANTpRIGHT HORIZONTAL SECANT",
     "pLOW VERTICAL SECANTpMID VERTICAL SECANTpHIGH VERTICAL SECANTpATTACHED SECANT",
     "yLEFT-TO-RIGHT SECANTyTANGENT!ILyE HOOKyI HOOKyTANGENT HOOK"]),
   (0x1bc80, [
     "aDUPLOYAN AFFIX HIGH ACUTEuTIGHT ACUTEuGRAVEuLONG GRAVEuDOTuCIRCLEuLINEuWAVEuVERTICAL"]),
   (0x1bc90, [
     "aDUPLOYAN AFFIX LOW ACUTEtTIGHT ACUTEtGRAVEtLONG GRAVEtDOTtCIRCLEtLINEtWAVEtVERTICALtARROW"]),
   (0x1bc9c, [
     "aDUPLOYAN SIGN O WITH CROSSjTHICK LETTER SELECTORjDOUBLE MARK",
     "jPUNCTUATION CHINOOK FULL STOPaSHORTHAND FORMAT LETTER OVERLAPrCONTINUING OVERLAP",
     "rDOWN STEPrUP STEP"]),
   (0x1cf00, [
     "aZNAMENNY COMBINING MARK GORAZDO NIZKO S KRYZHEM ON LEFTyNIZKO S KRYZHEM ON LEFT",
     "yTSATA ON LEFTyGORAZDO NIZKO ON LEFTyNIZKO ON LEFTySREDNE ON LEFTyMALO POVYSHE ON LEFT",
     "yPOVYSHE ON LEFTyVYSOKO ON LEFTyMALO POVYSHE S KHOKHLOM ON LEFTyPOVYSHE S KHOKHLOM ON LEFT",
     "yVYSOKO S KHOKHLOM ON LEFTyGORAZDO NIZKO S KRYZHEM ON RIGHTyNIZKO S KRYZHEM ON RIGHT",
     "yTSATA ON RIGHTyGORAZDO NIZKO ON RIGHTyNIZKO ON RIGHTySREDNE ON RIGHT",
     "yMALO POVYSHE ON RIGHTyPOVYSHE ON RIGHTyVYSOKO ON RIGHTyMALO POVYSHE S KHOKHLOM ON RIGHT",
     "yPOVYSHE S KHOKHLOM ON RIGHTyVYSOKO S KHOKHLOM ON RIGHTyTSATA S KRYZHEM",
     "yMALO POVYSHE S KRYZHEMySTRANNO MALO POVYSHEyPOVYSHE S KRYZHEM.TRANNOyVYSOKO S KRYZHEM",
     "yMALO POVYSHE STRANNOyGORAZDO VYSOKOyZELOyONyRAVNOyTIKHAYAyBORZAYAyUDARKAyPODVERTKAyLOMKA",
     "yKUPNAYAzACHKAyZEVOKySKOBAyRAZSEKAyKRYZH ON LEFT"]),
   (0x1cf30, [
     "aZNAMENNY COMBINING TONAL RANGE MARK MRACHNO;SVETLO;TRESVETLOtMARK ZADERZHKA",
     "yDEMESTVENNY ZADERZHKAyOTSECHKAyPODCHASHIE/ WITH VERTICAL STROKEyCHASHKA+ POLNAYAyOBLACHKO",
     "ySOROCHYA NOZHKAyTOCHKAyDVOETOCHIEtATTACHING VERTICAL OMETtMARK CURVED OMETyKRYZH",
     "tLOWER TONAL RANGE INDICATORjPRIZNAK MODIFIER LEVEL-2,3!DIRECTION FLIP!KRYZH!ROG"]),
   (0x1cf50, [
     "aZNAMENNY NEUME KRYUKu TIKHYpPARAKLITpDVA V CHELNUpKLYUCHpZANOZHEKpSTOPITSAx S OCHKOM",
     "pPEREVODKAy NEPOSTOYANNAYApSTOPITSA WITH SOROCHYA NOZHKApCHELYUSTKApPALKApZAPYATAYA",
     "pGOLUBCHIK BORZYzTIKHYzMRACHNYzSVETLYzTRESVETLYpVRAKHIYA PROSTAYAyMRACHNAYAySVETLAYA",
     "yTRESVETLAYAyKLYUCHEVAYA PROSTAYA;MRACHNAYA;SVETLAYA;TRESVETLAYApDOUBLE ZAPYATAYA",
     "pREVERSED CHELYUSTKApDERBITSApKHAMILOpCHASHKApPODCHASHIEpSKAMEYTSA MRACHNAYAzSVETLAYA",
     "zTRESVETLAYA!IKHAYApDEMESTVENNY KLYUCHpSKAMEYTSA KLYUCHEVAYA SVETLAYA,NEPOSTOYANNAYA",
     ",VAYA TIKHAYAzDVOECHELNAYA PROSTAYA=SVETLAYA=NEPOSTOYANNAYA=KLYUCHEVAYAqLOZHITIE",
     "y S ZAPYATOYzZAKRYTOEzS KRYZHEMpKRYZHpROGpFITApKOBYLApZMEYTSApSTATYAv S ZAPYATOYyKRYZHEM",
     "yZAPYATOY I KRYZHEMyKRYZHEM I ZAPYATOYwZAKRYTAYA+ S ZAPYATOYwS ROGOMyDVUMYA ZAPYATYMI",
     "yZAPYATOY I PODCHASHIEMpPOLKULIZMYpSTATYA NEPOSTOYANNAYArRELA PROSTAYAwMRACHNOTIKHAYA",
     "wKRYZHEVAYAwPOLUPOVODNAYAyVODNAYAwNEPOSTOYANNAYAwKLYUCHEPOVODNAYA&NEPOSTOYANNAYA",
     "wTIKHAYA PUTNAYAwDVOECHELNAYA+OKRYZHEVAYA,POVODNAYA+AYA KLYUCHEVAYA+OPOVODNAYA KLYUCHEVAYA",
     "wGROMNAYA WITH SINGLE ZAPYATAYA!OPOVODNAYA WITH SINGLE ZAPYATAYA!NAYA!OPOVODNAYA",
     "; WITH DOUBLE ZAPYATAYA$KRYZHEVAYA< POVODNAYApMECHIKv POVODNYwKLYUCHEVOY&POVODNY",
     "&NEPOSTOYANNYpSTRELA TRYASOGLASNAYA%POVODNAYA%STRELNAYApOSOKAu SVETLAYAvTRESVETLAYA",
     "vKRYUKOVAYA SVETLAYAwLYUCHEVAYA SVETLAYA.NEPOSTOYANNAYApSTRELA KRYUKOVAYA, POVODNAYA",
     ".GROMNAYA WITH SINGLE ZAPYATAYA<OPOVODNAYA WITH SINGLE ZAPYATAYA<NAYA<OPOVODNAYA",
     "~YA WITH DOUBLE ZAPYATAYA=KRYZHEVAYA~AYA POVODNAYA.TRYASKApKUFISMApOBLAKOpDUDApNEMKApPAUK"])]

end TokenTemplate.Unicode
