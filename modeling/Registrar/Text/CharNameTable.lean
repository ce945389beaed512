/-!
# The table of character names

The names that Unicode 14.0 lists one by one, with their aliases; the names of unified ideographs
and of Hangul syllables are made by rule and are not here. The names are in order. An entry begins
with a small letter, which counts from `a` on how many words the name shares with the one before
it, and holds the words that are left. Lines end between entries.
-/

namespace Registrar

/-- The listed names of characters, each without the words that it shares with the one before. -/
def charNameTable : String :=
"aABACUSaAC CURRENTaACCORDIONaACCOUNT OFaACKaACKNOWLEDGEaACTIVATE ARABIC FORM SHAPING
bSYMMETRIC SWAPPINGaACUTE ACCENTbANGLEaADDRESSED TO THE SUBJECTaADHESIVE BANDAGEaADI SHAKTI
aADLAM ALIF LENGTHENERbCAPITAL LETTER ALIFdBAdBHEdCHIdDAALIdDHAdEdFAdGAdGBEdHAdIdJIIMdKAFdKHAdKPO
dLAAMdMIIMdNHAdNUNdNYAdOdPEdQAAFdRAdSHAdSINNYIIYHEdTUdUdVAdWAWdYAdYHEdZALbCONSONANT MODIFIER
bDIGIT EIGHTcFIVEcFOURcNINEcONEcSEVENcSIXcTHREEcTWOcZERObGEMINATE CONSONANT MODIFIER
bGEMINATION MARKbHAMZAbINITIAL EXCLAMATION MARKcQUESTION MARKbNASALIZATION MARKbNUKTA
bSMALL LETTER ALIFdBAdBHEdCHIdDAALIdDHAdEdFAdGAdGBEdHAdIdJIIMdKAFdKHAdKPOdLAAMdMIIMdNHAdNUNdNYAdO
dPEdQAAFdRAdSHAdSINNYIIYHEdTUdUdVAdWAWdYAdYHEdZALbVOWEL LENGTHENERaADMETOSaADMISSION TICKETSaADULT
aAEGEAN CHECK MARKbDRY MEASURE FIRST SUBUNITbLIQUID MEASURE FIRST SUBUNITbMEASURE SECOND SUBUNIT
cTHIRD SUBUNITbNUMBER EIGHTdHUNDREDdTHOUSANDcEIGHTYdTHOUSANDcFIFTYdTHOUSANDcFIVEdHUNDREDdTHOUSAND
cFORTYdTHOUSANDcFOURdHUNDREDdTHOUSANDcNINEdHUNDREDdTHOUSANDcNINETYdTHOUSANDcONEdHUNDREDdTHOUSAND
cSEVENdHUNDREDdTHOUSANDcSEVENTYdTHOUSANDcSIXdHUNDREDdTHOUSANDcSIXTYdTHOUSANDcTENdTHOUSANDcTHIRTY
dTHOUSANDcTHREEdHUNDREDdTHOUSANDcTWENTYdTHOUSANDcTWOdHUNDREDdTHOUSANDbWEIGHT BASE UNIT
cFIRST SUBUNITcFOURTH SUBUNITcSECOND SUBUNITcTHIRD SUBUNITbWORD SEPARATOR DOTdLINEaAERIAL TRAMWAY
aAFGHANI SIGNaAHOM CONSONANT SIGN MEDIAL LAeLIGATING RAeRAbDIGIT EIGHTcFIVEcFOURcNINEcONEcSEVEN
cSIXcTHREEcTWOcZERObLETTER AcALTERNATE BAdGAdTAcBAcBHAcCAcCHAcDAcDDAcDDHAcDHAcGAcGHAcHAcJAcJHAcKA
cKHAcLAcLLAcMAcNAcNGAcNNAcNYAcPAcPHAcRAcSAcTAcTHAcTTAcTTHAbNUMBER TENcTWENTYbSIGN KILLERcRULAI
cSECTIONcSMALL SECTIONbSYMBOL VIbVOWEL SIGN AdAAdAIdAMdAWdEdIdIIdOdUdUUaAIRPLANEbARRIVING
bDEPARTUREaAKTIESELSKABaALARM CLOCKaALCHEMICAL SYMBOL FOR AIRdALEMBICdALKALIdALKALI-2dALUMdAMALGAM
dANTIMONY OREdAQUA REGIAeREGIA-2eVITAEeVITAE-2dAQUAFORTISdARSENICdASHESdAURIPIGMENTdBATH OF MARY
fVAPOURSdBISMUTH OREdBLACK SULFURdBORAXdBORAX-2dBORAX-3dBRICKdCADUCEUSdCALXdCAPUT MORTUUMdCINNABAR
dCOPPER ANTIMONIATEeOREdCROCUS OF COPPERfCOPPER-2fIRONdCRUCIBLEdCRUCIBLE-2dCRUCIBLE-3dCRUCIBLE-4
dCRUCIBLE-5dDAY-NIGHTdDISSOLVEdDISSOLVE-2dDISTILLdEARTHdFIREdGOLDdGUMdHALF DRAMeOUNCEdHORSE DUNG
dHOURdIRON OREeORE-2dIRON-COPPER OREdLEAD OREdLODESTONEdMARCASITEdMERCURY SUBLIMATEeSUBLIMATE-2
eSUBLIMATE-3dMONTHdNIGHTdNITREdOILdPHILOSOPHERS SULFURdPOT ASHESdPOWDERdPOWDERED BRICKdPRECIPITATE
dPURIFYdPUTREFACTIONdQUICK LIMEdQUINTESSENCEdREALGARdREALGAR-2dREGULUSeOF ANTIMONYfANTIMONY-2fIRON
dREGULUS-2dREGULUS-3dREGULUS-4dRETORTdROCK SALTeSALT-2dSAL-AMMONIACdSALTeOF ANTIMONY
fCOPPER ANTIMONIATEdSCEPTER OF JOVEdSILVERdSOAPdSPIRITdSTARRED TRIDENTdSTRATUM SUPER STRATUM
fSTRATUM-2dSUBLIMATE OF ANTIMONYfCOPPERfSALT OF ANTIMONYhCOPPERdSUBLIMATIONdSULFURdTARTARdTARTAR-2
dTIN OREdTINCTUREdTRIDENTdTUTTYdURINEdVERDIGRISdVINEGAReOF ANTIMONYdVINEGAR-2dVINEGAR-3dVITRIOL
dVITRIOL-2dWATERdWAXaALEF SYMBOLaALEMBICaALERTaALIEN MONSTERaALL AROUND-PROFILEbEQUAL TOaALM
aALMOST EQUAL OR EQUAL TOcTOdWITH CIRCUMFLEX ACCENTaALTERNATE ONE-WAY LEFT WAY TRAFFIC
aALTERNATIVE KEY SYMBOLaAMALGAMATION OR COPRODUCTaAMBULANCEaAMERICAN FOOTBALLaAMPERSANDaAMPHORA
aANATOLIAN HIEROGLYPH A001cA002cA003cA004cA005cA006cA007cA008cA009cA010cA010AcA011cA012cA013cA014
cA015cA016cA017cA018cA019cA020cA021cA022cA023cA024cA025cA026cA026AcA027cA028cA029cA030cA031cA032
cA033cA034cA035cA036cA037cA038cA039cA039AcA040cA041cA041AcA042cA043cA044cA045cA045AcA046cA046A
cA046BcA047cA048cA049cA050cA051cA052cA053cA054cA055cA056cA057cA058cA059cA060cA061cA062cA063cA064
cA065cA066cA066AcA066BcA066CcA067cA068cA069cA070cA071cA072cA073cA074cA075cA076cA077cA078cA079cA080
cA081cA082cA083cA084cA085cA086cA087cA088cA089cA090cA091cA092cA093cA094cA095cA096cA097cA097AcA098
cA098AcA099cA100cA100AcA101cA101AcA102cA102AcA103cA104cA104AcA104BcA104CcA105cA105AcA105BcA106
cA107cA107AcA107BcA107CcA108cA109cA110cA110AcA110BcA111cA112cA113cA114cA115cA115AcA116cA117cA118
cA119cA120cA121cA122cA123cA124cA125cA125AcA126cA127cA128cA129cA130cA131cA132cA133cA134cA135cA135A
cA136cA137cA138cA139cA140cA141cA142cA143cA144cA145cA146cA147cA148cA149cA150cA151cA152cA153cA154
cA155cA156cA157cA158cA159cA160cA161cA162cA163cA164cA165cA166cA167cA168cA169cA170cA171cA172cA173
cA174cA175cA176cA177cA178cA179cA180cA181cA182cA183cA184cA185cA186cA187cA188cA189cA190cA191cA192
cA193cA194cA195cA196cA197cA198cA199cA200cA201cA202cA202AcA202BcA203cA204cA205cA206cA207cA207AcA208
cA209cA209AcA210cA211cA212cA213cA214cA215cA215AcA216cA216AcA217cA218cA219cA220cA221cA222cA223cA224
cA225cA226cA227cA227AcA228cA229cA230cA231cA232cA233cA234cA235cA236cA237cA238cA239cA240cA241cA242
cA243cA244cA245cA246cA247cA248cA249cA250cA251cA252cA253cA254cA255cA256cA257cA258cA259cA260cA261
cA262cA263cA264cA265cA266cA267cA267AcA268cA269cA270cA271cA272cA273cA274cA275cA276cA277cA278cA279
cA280cA281cA282cA283cA284cA285cA286cA287cA288cA289cA289AcA290cA291cA292cA293cA294cA294AcA295cA296
cA297cA298cA299cA299AcA300cA301cA302cA303cA304cA305cA306cA307cA308cA309cA309AcA310cA311cA312cA313
cA314cA315cA316cA317cA318cA319cA320cA321cA322cA323cA324cA325cA326cA327cA328cA329cA329AcA330cA331
cA332AcA332BcA332CcA333cA334cA335cA336cA336AcA336BcA336CcA337cA338cA339cA340cA341cA342cA343cA344
cA345cA346cA347cA348cA349cA350cA351cA352cA353cA354cA355cA356cA357cA358cA359cA359AcA360cA361cA362
cA363cA364cA364AcA365cA366cA367cA368cA368AcA369cA370cA371cA371AcA372cA373cA374cA375cA376cA377cA378
cA379cA380cA381cA381AcA382cA383 RA OR RIcA383AcA384cA385cA386cA386AcA387cA388cA389cA390cA391cA392
cA393 EIGHTcA394cA395cA396cA397cA398cA399cA400cA401cA402cA403cA404cA405cA406cA407cA408cA409
cA410 BEGIN LOGOGRAM MARKcA410A END LOGOGRAM MARKcA411cA412cA413cA414cA415cA416cA417cA418cA419
cA420cA421cA422cA423cA424cA425cA426cA427cA428cA429cA430cA431cA432cA433cA434cA435cA436cA437cA438
cA439cA440cA441cA442cA443cA444cA445cA446cA447cA448cA449cA450cA450AcA451cA452cA453cA454cA455cA456
cA457cA457AcA458cA459cA460cA461cA462cA463cA464cA465cA466cA467cA468cA469cA470cA471cA472cA473cA474
cA475cA476cA477cA478cA479cA480cA481cA482cA483cA484cA485cA486cA487cA488cA489cA490cA491cA492cA493
cA494cA495cA496cA497cA501cA502cA503cA504cA505cA506cA507cA508cA509cA510cA511cA512cA513cA514cA515
cA516cA517cA518cA519cA520cA521cA522cA523cA524cA525cA526cA527cA528cA529cA530aANATOMICAL HEART
aANCHORaAND WITH DOTaANGER SYMBOLaANGLEbWITH S INSIDEcUNDERBARaANGRY FACEaANGSTROM SIGN
aANGUISHED FACEaANKHaANTaANTENNA WITH BARSaANTICLOCKWISE CLOSED CIRCLE ARROWbCONTOUR INTEGRAL
bDOWNWARDS AND UPWARDS OPEN CIRCLE ARROWSbGAPPED CIRCLE ARROWbINTEGRATIONbOPEN CIRCLE ARROW
bTOP SEMICIRCLE ARROWbTRIANGLE-HEADED BOTTOM U-SHAPED ARROWcLEFT U-SHAPED ARROWcOPEN CIRCLE ARROW
cRIGHT U-SHAPED ARROWcTOP U-SHAPED ARROWaAPCaAPL FUNCTIONAL SYMBOL ALPHAeUNDERBARdBACKSLASH BAR
dCIRCLE BACKSLASHeDIAERESISeJOTeSTAReSTILEeUNDERBARdCOMMA BARdDEL DIAERESISeSTILEeTILDE
dDELTA STILEeUNDERBARdDIAMOND UNDERBARdDOWN CARET TILDEeSHOE STILEeTACK JOTfUNDERBAR
dDOWNWARDS VANEdEPSILON UNDERBARdGREATER-THAN DIAERESISdI-BEAMdIOTAeUNDERBARdJOT DIAERESIS
eUNDERBARdLEFT SHOE STILEdLEFTWARDS VANEdOMEGAeUNDERBARdQUADeBACKSLASHeCIRCLEeCOLONeDELeDELTA
eDIAMONDeDIVIDEeDOWN CARETeDOWNWARDS ARROWeEQUALeGREATER-THANeJOTeLEFTWARDS ARROWeLESS-THAN
eNOT EQUALeQUESTIONeRIGHTWARDS ARROWeSLASHeUP CARETeUPWARDS ARROWdQUOTE QUADeUNDERBARdRHO
dRIGHTWARDS VANEdSEMICOLON UNDERBARdSLASH BARdSQUISH QUADdSTAR DIAERESISdSTILE TILDE
dTILDE DIAERESISdUP CARET TILDEeSHOE JOTeTACK DIAERESISfJOTfOVERBARdUPWARDS VANEdZILDEaAPOLLON
aAPOSTROPHEaAPPLICATION PROGRAM COMMANDaAPPROACHES THE LIMIT
aAPPROXIMATELY BUT NOT ACTUALLY EQUAL TObEQUAL OR EQUAL TOcTOdOR THE IMAGE OFaAQUARIUS
aARABIC BASELINE ROUND DOTbCOMMAbCURLY DAMMAcDAMMATANcFATHAcFATHATANcKASRAcKASRATANbDAMMA
cISOLATED FORMcMEDIAL FORMcWITH DOTbDAMMATANcISOLATED FORMbDATE SEPARATORbDECIMAL SEPARATOR
bDISPUTED END OF AYAHbDOUBLE RIGHT ARROWHEAD ABOVEfWITH DOTbDOUBLED MADDAbEMPTY CENTRE HIGH STOP
dLOW STOPbEND OF AYAHdTEXT MARKbFATHAcISOLATED FORMcMEDIAL FORMcWITH DOT ABOVEdRINGdTWO DOTS
bFATHATANcISOLATED FORMbFIVE POINTED STARbFOOTNOTE MARKERbFULL STOPbHALF MADDA OVER MADDA
bHAMZA ABOVEcBELOWbINVERTED DAMMAbKASRAcISOLATED FORMcMEDIAL FORMcWITH DOT BELOWbKASRATAN
cISOLATED FORMbLARGE CIRCLE BELOWcROUND DOT ABOVEeBELOWeINSIDE CIRCLE BELOWbLEFT ARROWHEAD ABOVE
dBELOWbLETTER AEcAFRICAN FEHdNOONdQAFeWITH THREE DOTS ABOVEcAINdFINAL FORMdINITIAL FORM
dISOLATED FORMdMEDIAL FORMdWITH THREE DOTS ABOVEgBELOWgPOINTING DOWNWARDS ABOVEeTWO DOTS ABOVE
gVERTICALLY ABOVEcALEFdFINAL FORMdISOLATED FORMdMAKSURAeFINAL FORMeISOLATED FORMdWASLAeFINAL FORM
eISOLATED FORMdWITH ATTACHED BOTTOM RIGHT KASRAiAND DOT ABOVEjLEFT RINGfFATHAfKASRAfLEFT HAMZA
gROUND DOTfRIGHT HAMZAgROUND DOTfROUND DOT ABOVEhBELOWfTOP RIGHT FATHAiAND DOT ABOVEjLEFT RING
eDOT ABOVEeEXTENDED ARABIC-INDIC DIGIT THREE ABOVEhTWO ABOVEeHAMZA ABOVEgFINAL FORMgISOLATED FORM
fBELOWgFINAL FORMgISOLATED FORMeLEFT MIDDLE STROKEeMADDA ABOVEgFINAL FORMgISOLATED FORM
eRIGHT MIDDLE STROKEhAND DOT ABOVEiLEFT RINGeWAVY HAMZA ABOVEgBELOWcBEEHdFINAL FORMdINITIAL FORM
dISOLATED FORMdMEDIAL FORMcBEHdFINAL FORMdINITIAL FORMdISOLATED FORMdMEDIAL FORM
dWITH DOT BELOW AND THREE DOTS ABOVEeHAMZA ABOVEeINVERTED SMALL V BELOWeSMALL MEEM ABOVEfVgBELOW
eTHREE DOTS HORIZONTALLY BELOWgPOINTING UPWARDS BELOWjAND TWO DOTS ABOVE
eTWO DOTS BELOW AND DOT ABOVEcBEHEHdFINAL FORMdINITIAL FORMdISOLATED FORMdMEDIAL FORMcDAD
dFINAL FORMdINITIAL FORMdISOLATED FORMdMEDIAL FORMdWITH DOT BELOWcDAHALdFINAL FORMdISOLATED FORM
cDALdFINAL FORMdISOLATED FORMdWITH DOT BELOWgAND SMALL TAHeFOUR DOTS ABOVEeINVERTED SMALL V BELOW
fVeRINGeTHREE DOTS ABOVE DOWNWARDSgBELOWeTWO DOTS VERTICALLY BELOW AND SMALL TAHcDDAHALdFINAL FORM
dISOLATED FORMcDDALdFINAL FORMdISOLATED FORMcDOTLESS BEHdFEHdQAFcDULdFINAL FORMdISOLATED FORMcDYEH
dFINAL FORMdINITIAL FORMdISOLATED FORMdMEDIAL FORMcEdFINAL FORMdINITIAL FORMdISOLATED FORM
dMEDIAL FORMcFARSI YEHeFINAL FORMeINITIAL FORMeISOLATED FORMeMEDIAL FORM
eWITH EXTENDED ARABIC-INDIC DIGIT FOUR BELOWiTHREE ABOVEiTWO ABOVEfINVERTED VfTHREE DOTS ABOVE
fTWO DOTS ABOVEcFEHdFINAL FORMdINITIAL FORMdISOLATED FORMdMEDIAL FORMdWITH DOT BELOW
gAND THREE DOTS ABOVEfMOVED BELOWeTHREE DOTS BELOWgPOINTING UPWARDS BELOWeTWO DOTS BELOWcGAF
dFINAL FORMdINITIAL FORMdISOLATED FORMdMEDIAL FORMdWITH INVERTED STROKEeRINGeTHREE DOTS ABOVE
eTWO DOTS BELOWcGHAINdFINAL FORMdINITIAL FORMdISOLATED FORMdMEDIAL FORMdWITH DOT BELOW
eTHREE DOTS ABOVEcGRAFcGUEHdFINAL FORMdINITIAL FORMdISOLATED FORMdMEDIAL FORMcHAHdFINAL FORM
dINITIAL FORMdISOLATED FORMdMEDIAL FORMdWITH EXTENDED ARABIC-INDIC DIGIT FOUR BELOWeHAMZA ABOVE
eINVERTED SMALL V BELOWeSMALL ARABIC LETTER TAH ABOVEiAND TWO DOTSiBELOWeTHREE DOTS ABOVE
gPOINTING UPWARDS BELOWeTWO DOTS ABOVEgVERTICAL ABOVEcHAMZAdISOLATED FORMcHEHdDOACHASHMEE
eFINAL FORMeINITIAL FORMeISOLATED FORMeMEDIAL FORMdFINAL FORMdGOALeFINAL FORMeINITIAL FORM
eISOLATED FORMeMEDIAL FORMeWITH HAMZA ABOVEdINITIAL FORMdISOLATED FORMdMEDIAL FORMdWITH INVERTED V
eYEH ABOVEgFINAL FORMgISOLATED FORMcHIGH HAMZAeALEFeWAWeYEHcJEEMdFINAL FORMdINITIAL FORM
dISOLATED FORMdMEDIAL FORMdWITH THREE DOTS ABOVEgBELOWeTWO DOTS ABOVEcJEHdFINAL FORMdISOLATED FORM
cKAFdFINAL FORMdINITIAL FORMdISOLATED FORMdMEDIAL FORMdWITH DOT ABOVEfBELOWeRINGeTHREE DOTS BELOW
eTWO DOTS ABOVEcKASHMIRI YEHcKEHEHdFINAL FORMdINITIAL FORMdISOLATED FORMdMEDIAL FORM
dWITH DOT ABOVEeSMALL VeTHREE DOTS ABOVEgBELOWgPOINTING UPWARDS BELOWeTWO DOTS ABOVE
gVERTICALLY BELOWcKHAHdFINAL FORMdINITIAL FORMdISOLATED FORMdMEDIAL FORMcKIRGHIZ OEeFINAL FORM
eISOLATED FORMdYUeFINAL FORMeISOLATED FORMcLAMdFINAL FORMdINITIAL FORMdISOLATED FORMdMEDIAL FORM
dWITH BAReDOT ABOVEeDOUBLE BAReSMALL ARABIC LETTER TAH ABOVEfVeTHREE DOTS ABOVEgBELOWcLOW ALEF
cMARKcMEEMdFINAL FORMdINITIAL FORMdISOLATED FORMdMEDIAL FORMdWITH DOT ABOVEfBELOWeTHREE DOTS ABOVE
cNGdFINAL FORMdINITIAL FORMdISOLATED FORMdMEDIAL FORMcNGOEHdFINAL FORMdINITIAL FORMdISOLATED FORM
dMEDIAL FORMcNOONdFINAL FORMdGHUNNAeFINAL FORMeISOLATED FORMdINITIAL FORMdISOLATED FORM
dMEDIAL FORMdWITH DOT BELOWeINVERTED SMALL VeRINGeSMALL TAHfVeTHREE DOTS ABOVEeTWO DOTS BELOWcNYEH
dFINAL FORMdINITIAL FORMdISOLATED FORMdMEDIAL FORMcOEdFINAL FORMdISOLATED FORMcPEHdFINAL FORM
dINITIAL FORMdISOLATED FORMdMEDIAL FORMdWITH SMALL MEEM ABOVEfVcPEHEHdFINAL FORMdINITIAL FORM
dISOLATED FORMdMEDIAL FORMcQAFdFINAL FORMdINITIAL FORMdISOLATED FORMdMEDIAL FORMdWITH DOT ABOVE
fBELOWgAND NO DOTS ABOVEeTHREE DOTS ABOVEcREHdFINAL FORMdISOLATED FORMdWITH DOT BELOW
gAND DOT ABOVEeFOUR DOTS ABOVEeHAMZA ABOVEeINVERTED VeLOOPeRING
eSMALL ARABIC LETTER TAH AND TWO DOTSfNOON ABOVEfVgBELOWeSTROKEeTWO DOTS ABOVEgVERTICALLY ABOVE
cRNOONdFINAL FORMdINITIAL FORMdISOLATED FORMdMEDIAL FORMcROHINGYA YEHcRREHdFINAL FORM
dISOLATED FORMcSADdFINAL FORMdINITIAL FORMdISOLATED FORMdMEDIAL FORMdWITH THREE DOTS ABOVEgBELOW
eTWO DOTS BELOWcSEENdFINAL FORMdINITIAL FORMdISOLATED FORMdMEDIAL FORM
dWITH DOT BELOW AND DOT ABOVEeEXTENDED ARABIC-INDIC DIGIT FOUR ABOVEeFOUR DOTS ABOVEeINVERTED V
eSMALL ARABIC LETTER TAH AND TWO DOTSeTHREE DOTS BELOWhAND THREE DOTS ABOVE
eTWO DOTS VERTICALLY ABOVEcSHEENdFINAL FORMdINITIAL FORMdISOLATED FORMdMEDIAL FORMdWITH DOT BELOW
cSTRAIGHT WAWcSUPERSCRIPT ALEFcSWASH KAFcTAHdFINAL FORMdINITIAL FORMdISOLATED FORMdMEDIAL FORM
dWITH DOT BELOWeTHREE DOTS ABOVEgBELOWeTWO DOTS ABOVEcTCHEHdFINAL FORMdINITIAL FORMdISOLATED FORM
dMEDIAL FORMdWITH DOT ABOVEeSMALL VcTCHEHEHdFINAL FORMdINITIAL FORMdISOLATED FORMdMEDIAL FORMcTEH
dFINAL FORMdINITIAL FORMdISOLATED FORMdMARBUTAeFINAL FORMeGOALeISOLATED FORMdMEDIAL FORMdWITH RING
eSMALL TEH ABOVEfVeTHREE DOTS ABOVE DOWNWARDScTEHEHdFINAL FORMdINITIAL FORMdISOLATED FORM
dMEDIAL FORMcTHALdFINAL FORMdISOLATED FORMcTHEHdFINAL FORMdINITIAL FORMdISOLATED FORMdMEDIAL FORM
cTHIN YEHcTTEHdFINAL FORMdINITIAL FORMdISOLATED FORMdMEDIAL FORMdWITH SMALL VcTTEHEHdFINAL FORM
dINITIAL FORMdISOLATED FORMdMEDIAL FORMcUdFINAL FORMdISOLATED FORMdWITH HAMZA ABOVEgISOLATED FORM
cUIGHUR KAZAKH KIRGHIZ ALEF MAKSURA INITIAL FORMhMEDIAL FORMcVEdFINAL FORMdISOLATED FORMcVEH
dFINAL FORMdINITIAL FORMdISOLATED FORMdMEDIAL FORMcWAWdFINAL FORMdISOLATED FORMdWITH DOT ABOVE
fWITHINeEXTENDED ARABIC-INDIC DIGIT THREE ABOVEhTWO ABOVEeHAMZA ABOVEgFINAL FORMgISOLATED FORM
eRINGeTWO DOTS ABOVEcYEHdBARREEeFINAL FORMeISOLATED FORM
eWITH EXTENDED ARABIC-INDIC DIGIT THREE ABOVEiTWO ABOVEfHAMZA ABOVEhFINAL FORMhISOLATED FORM
dFINAL FORMdINITIAL FORMdISOLATED FORMdMEDIAL FORMdWITH HAMZA ABOVEgFINAL FORMgINITIAL FORM
gISOLATED FORMgMEDIAL FORMeSMALL VeTAILeTHREE DOTS BELOWeTWO DOTS BELOW AND DOT ABOVEiHAMZA ABOVE
iSMALL NOON ABOVEcYUdFINAL FORMdISOLATED FORMcZAHdFINAL FORMdINITIAL FORMdISOLATED FORM
dMEDIAL FORMcZAINdFINAL FORMdISOLATED FORMdWITH INVERTED V ABOVE
bLIGATURE AIN WITH ALEF MAKSURA FINAL FORMgISOLATED FORMeJEEM INITIAL FORMfISOLATED FORM
fWITH MEEM FINAL FORMhINITIAL FORMeMEEM INITIAL FORMfISOLATED FORMfWITH ALEF MAKSURA FINAL FORM
gMEEM FINAL FORMhINITIAL FORMgYEH FINAL FORMeYEH FINAL FORMfISOLATED FORMcAKBAR ISOLATED FORM
cALAYHAA AS-SALAAMcALAYHE ISOLATED FORMcALAYHI AS-SALAAMdAS-SALAATU WAS-SALAAMcALAYHIM AS-SALAAM
cALAYHIMAA AS-SALAAMcALEF MAKSURA WITH SUPERSCRIPT ALEF FINAL FORMhISOLATED FORM
dWITH FATHATAN FINAL FORMfISOLATED FORMcALLAH ISOLATED FORMcAZZA WA JALL
cBEH WITH ALEF MAKSURA FINAL FORMgISOLATED FORMeHAH INITIAL FORMfISOLATED FORMfWITH YEH FINAL FORM
eHEH INITIAL FORMfMEDIAL FORMeJEEM INITIAL FORMfISOLATED FORMeKHAH INITIAL FORMfISOLATED FORM
fWITH YEH FINAL FORMeMEEM FINAL FORMfINITIAL FORMfISOLATED FORMfMEDIAL FORMeNOON FINAL FORM
eREH FINAL FORMeYEH FINAL FORMfISOLATED FORMeZAIN FINAL FORMcBISMILLAH AR-RAHMAN AR-RAHEEM
cDAD WITH ALEF MAKSURA FINAL FORMgISOLATED FORMeHAH INITIAL FORMfISOLATED FORM
fWITH ALEF MAKSURA FINAL FORMgYEH FINAL FORMeJEEM INITIAL FORMfISOLATED FORMeKHAH INITIAL FORM
fISOLATED FORMfWITH MEEM FINAL FORMhINITIAL FORMeMEEM INITIAL FORMfISOLATED FORMeREH FINAL FORM
fISOLATED FORMeYEH FINAL FORMfISOLATED FORMcFEH WITH ALEF MAKSURA FINAL FORMgISOLATED FORM
eHAH INITIAL FORMfISOLATED FORMeJEEM INITIAL FORMfISOLATED FORMeKHAH INITIAL FORMfISOLATED FORM
fWITH MEEM FINAL FORMhINITIAL FORMeMEEM INITIAL FORMfISOLATED FORMfWITH YEH FINAL FORM
eYEH FINAL FORMfISOLATED FORMcGHAIN WITH ALEF MAKSURA FINAL FORMgISOLATED FORMeJEEM INITIAL FORM
fISOLATED FORMeMEEM INITIAL FORMfISOLATED FORMfWITH ALEF MAKSURA FINAL FORMgMEEM FINAL FORM
gYEH FINAL FORMeYEH FINAL FORMfISOLATED FORMcHAH WITH ALEF MAKSURA FINAL FORMgISOLATED FORM
eJEEM INITIAL FORMfISOLATED FORMfWITH YEH FINAL FORMeMEEM INITIAL FORMfISOLATED FORM
fWITH ALEF MAKSURA FINAL FORMgYEH FINAL FORMeYEH FINAL FORMfISOLATED FORM
cHEH WITH ALEF MAKSURA ISOLATED FORMeJEEM INITIAL FORMfISOLATED FORMeMEEM INITIAL FORM
fISOLATED FORMfWITH JEEM INITIAL FORMgMEEM INITIAL FORMeSUPERSCRIPT ALEF INITIAL FORM
eYEH ISOLATED FORMcJALLAJALALOUHOUcJEEM WITH ALEF MAKSURA FINAL FORMgISOLATED FORM
eHAH INITIAL FORMfISOLATED FORMfWITH ALEF MAKSURA FINAL FORMgYEH FINAL FORMeMEEM INITIAL FORM
fISOLATED FORMfWITH ALEF MAKSURA FINAL FORMgHAH FINAL FORMhINITIAL FORMgYEH FINAL FORM
eYEH FINAL FORMfISOLATED FORMcKAF WITH ALEF FINAL FORMfISOLATED FORMfMAKSURA FINAL FORM
gISOLATED FORMeHAH INITIAL FORMfISOLATED FORMeJEEM INITIAL FORMfISOLATED FORMeKHAH INITIAL FORM
fISOLATED FORMeLAM FINAL FORMfINITIAL FORMfISOLATED FORMfMEDIAL FORMeMEEM FINAL FORMfINITIAL FORM
fISOLATED FORMfMEDIAL FORMfWITH MEEM FINAL FORMhINITIAL FORMgYEH FINAL FORMeYEH FINAL FORM
fISOLATED FORMcKHAH WITH ALEF MAKSURA FINAL FORMgISOLATED FORMeHAH ISOLATED FORMeJEEM INITIAL FORM
fISOLATED FORMeMEEM INITIAL FORMfISOLATED FORMeYEH FINAL FORMfISOLATED FORM
cLAM WITH ALEF FINAL FORMfISOLATED FORMfMAKSURA FINAL FORMgISOLATED FORM
fWITH HAMZA ABOVE FINAL FORMiISOLATED FORMhBELOW FINAL FORMiISOLATED FORMgMADDA ABOVE FINAL FORM
iISOLATED FORMeHAH INITIAL FORMfISOLATED FORMfWITH ALEF MAKSURA FINAL FORMgMEEM FINAL FORM
hINITIAL FORMgYEH FINAL FORMeHEH INITIAL FORMeJEEM INITIAL FORMfISOLATED FORMfWITH JEEM FINAL FORM
hINITIAL FORMgMEEM FINAL FORMhINITIAL FORMgYEH FINAL FORMeKHAH INITIAL FORMfISOLATED FORM
fWITH MEEM FINAL FORMhINITIAL FORMeMEEM FINAL FORMfINITIAL FORMfISOLATED FORMfMEDIAL FORM
fWITH HAH FINAL FORMhINITIAL FORMgYEH FINAL FORMeYEH FINAL FORMfISOLATED FORM
cMEEM WITH ALEF FINAL FORMfMAKSURA ISOLATED FORMeHAH INITIAL FORMfISOLATED FORM
fWITH JEEM INITIAL FORMgMEEM INITIAL FORMgYEH FINAL FORMeJEEM INITIAL FORMfISOLATED FORM
fWITH HAH INITIAL FORMgKHAH INITIAL FORMgMEEM INITIAL FORMgYEH FINAL FORMeKHAH INITIAL FORM
fISOLATED FORMfWITH JEEM INITIAL FORMgMEEM INITIAL FORMgYEH FINAL FORMeMEEM FINAL FORM
fINITIAL FORMfISOLATED FORMfWITH YEH FINAL FORMeYEH ISOLATED FORMcMOHAMMAD ISOLATED FORM
cNOON WITH ALEF MAKSURA FINAL FORMgISOLATED FORMeHAH INITIAL FORMfISOLATED FORM
fWITH ALEF MAKSURA FINAL FORMgMEEM INITIAL FORMgYEH FINAL FORMeHEH INITIAL FORMfMEDIAL FORM
eJEEM INITIAL FORMfISOLATED FORMfWITH ALEF MAKSURA FINAL FORMgHAH FINAL FORMhINITIAL FORM
gMEEM FINAL FORMhINITIAL FORMgYEH FINAL FORMeKHAH INITIAL FORMfISOLATED FORMeMEEM FINAL FORM
fINITIAL FORMfISOLATED FORMfMEDIAL FORMfWITH ALEF MAKSURA FINAL FORMgYEH FINAL FORM
eNOON FINAL FORMeREH FINAL FORMeYEH FINAL FORMfISOLATED FORMeZAIN FINAL FORM
cQAF WITH ALEF MAKSURA FINAL FORMgISOLATED FORMeHAH INITIAL FORMfISOLATED FORMeMEEM INITIAL FORM
fISOLATED FORMfWITH HAH FINAL FORMhINITIAL FORMgMEEM FINAL FORMgYEH FINAL FORMeYEH FINAL FORM
fISOLATED FORMcQALA USED AS KORANIC STOP SIGN ISOLATED FORMcQUDDISA SIRRAHcRADI ALLAAHU ANHeANHAA
eANHUMeANHUMAAeANHUNNAcRAHIMAHU ALLAAHcRAHIMAHUM ALLAAHcRASOUL ISOLATED FORM
cREH WITH SUPERSCRIPT ALEF ISOLATED FORMcSAD WITH ALEF MAKSURA FINAL FORMgISOLATED FORM
eHAH INITIAL FORMfISOLATED FORMfWITH HAH FINAL FORMhINITIAL FORMgYEH FINAL FORMeKHAH INITIAL FORM
eMEEM INITIAL FORMfISOLATED FORMfWITH MEEM FINAL FORMhINITIAL FORMeREH FINAL FORMfISOLATED FORM
eYEH FINAL FORMfISOLATED FORMcSALAAMUHU ALAYNAAcSALAM ISOLATED FORMcSALLA ISOLATED FORM
dUSED AS KORANIC STOP SIGN ISOLATED FORMcSALLALLAAHU ALAYHI WA-AALIHcSALLALLAHOU ALAYHE WASALLAM
cSALLALLAHU ALAYHI WAAALIHEE WA-SALLAMcSEEN WITH ALEF MAKSURA FINAL FORMgISOLATED FORM
eHAH INITIAL FORMfISOLATED FORMfMEDIAL FORMfWITH JEEM INITIAL FORMeHEH INITIAL FORMfMEDIAL FORM
eJEEM INITIAL FORMfISOLATED FORMfMEDIAL FORMfWITH ALEF MAKSURA FINAL FORMgHAH INITIAL FORM
eKHAH INITIAL FORMfISOLATED FORMfMEDIAL FORMfWITH ALEF MAKSURA FINAL FORMgYEH FINAL FORM
eMEEM INITIAL FORMfISOLATED FORMfMEDIAL FORMfWITH HAH FINAL FORMhINITIAL FORMgJEEM INITIAL FORM
gMEEM FINAL FORMhINITIAL FORMeREH FINAL FORMfISOLATED FORMeYEH FINAL FORMfISOLATED FORM
cSHADDA WITH DAMMA ISOLATED FORMfMEDIAL FORMeDAMMATAN ISOLATED FORMeFATHA ISOLATED FORM
fMEDIAL FORMeKASRA ISOLATED FORMfMEDIAL FORMeKASRATAN ISOLATED FORMeSUPERSCRIPT ALEF ISOLATED FORM
cSHEEN WITH ALEF MAKSURA FINAL FORMgISOLATED FORMeHAH FINAL FORMfINITIAL FORMfISOLATED FORM
fMEDIAL FORMfWITH MEEM FINAL FORMhINITIAL FORMgYEH FINAL FORMeHEH INITIAL FORMfMEDIAL FORM
eJEEM FINAL FORMfINITIAL FORMfISOLATED FORMfMEDIAL FORMfWITH YEH FINAL FORMeKHAH FINAL FORM
fINITIAL FORMfISOLATED FORMfMEDIAL FORMeMEEM FINAL FORMfINITIAL FORMfISOLATED FORMfMEDIAL FORM
fWITH KHAH FINAL FORMhINITIAL FORMgMEEM FINAL FORMhINITIAL FORMeREH FINAL FORMfISOLATED FORM
eYEH FINAL FORMfISOLATED FORMcSUBHAANAHU WA TAAALAAcTABAARAKA WA-TAAALAA
cTAH WITH ALEF MAKSURA FINAL FORMgISOLATED FORMeHAH INITIAL FORMfISOLATED FORMeMEEM INITIAL FORM
fISOLATED FORMfMEDIAL FORMfWITH HAH FINAL FORMhINITIAL FORMgMEEM INITIAL FORMgYEH FINAL FORM
eYEH FINAL FORMfISOLATED FORMcTEH WITH ALEF MAKSURA FINAL FORMgISOLATED FORMeHAH INITIAL FORM
fISOLATED FORMfWITH JEEM FINAL FORMhINITIAL FORMgMEEM INITIAL FORMeHEH INITIAL FORMfMEDIAL FORM
eJEEM INITIAL FORMfISOLATED FORMfWITH ALEF MAKSURA FINAL FORMgMEEM INITIAL FORMgYEH FINAL FORM
eKHAH INITIAL FORMfISOLATED FORMfWITH ALEF MAKSURA FINAL FORMgMEEM INITIAL FORMgYEH FINAL FORM
eMEEM FINAL FORMfINITIAL FORMfISOLATED FORMfMEDIAL FORMfWITH ALEF MAKSURA FINAL FORM
gHAH INITIAL FORMgJEEM INITIAL FORMgKHAH INITIAL FORMgYEH FINAL FORMeNOON FINAL FORM
eREH FINAL FORMeYEH FINAL FORMfISOLATED FORMeZAIN FINAL FORM
cTHAL WITH SUPERSCRIPT ALEF ISOLATED FORMcTHEH WITH ALEF MAKSURA FINAL FORMgISOLATED FORM
eHEH MEDIAL FORMeJEEM ISOLATED FORMeMEEM FINAL FORMfINITIAL FORMfISOLATED FORMfMEDIAL FORM
eNOON FINAL FORMeREH FINAL FORMeYEH FINAL FORMfISOLATED FORMeZAIN FINAL FORM
cUIGHUR KIRGHIZ YEH WITH HAMZA ABOVE WITH ALEF MAKSURA FINAL FORMlINITIAL FORMlISOLATED FORM
cWASALLAM ISOLATED FORMcYEH WITH ALEF MAKSURA FINAL FORMgISOLATED FORMeHAH INITIAL FORM
fISOLATED FORMfWITH YEH FINAL FORMeHAMZA ABOVE WITH AE FINAL FORMiISOLATED FORMhALEF FINAL FORM
iISOLATED FORMiMAKSURA FINAL FORMjISOLATED FORMhE FINAL FORMiINITIAL FORMiISOLATED FORM
hHAH INITIAL FORMiISOLATED FORMhHEH INITIAL FORMiMEDIAL FORMhJEEM INITIAL FORMiISOLATED FORM
hKHAH INITIAL FORMhMEEM FINAL FORMiINITIAL FORMiISOLATED FORMiMEDIAL FORMhNOON FINAL FORM
hOE FINAL FORMiISOLATED FORMhREH FINAL FORMhU FINAL FORMiISOLATED FORMhWAW FINAL FORM
iISOLATED FORMhYEH FINAL FORMiISOLATED FORMhYU FINAL FORMiISOLATED FORMhZAIN FINAL FORM
eHEH INITIAL FORMfMEDIAL FORMeJEEM INITIAL FORMfISOLATED FORMfWITH YEH FINAL FORM
eKHAH INITIAL FORMfISOLATED FORMeMEEM FINAL FORMfINITIAL FORMfISOLATED FORMfMEDIAL FORM
fWITH MEEM FINAL FORMhINITIAL FORMgYEH FINAL FORMeNOON FINAL FORMeREH FINAL FORMeYEH FINAL FORM
fISOLATED FORMeZAIN FINAL FORMcZAH WITH MEEM INITIAL FORMfISOLATED FORMfMEDIAL FORMbMADDA WAAJIB
bMADDAH ABOVEbMARK NOON GHUNNAcSIDEWAYS NOON GHUNNAbMATHEMATICAL AINcALEFcBEHcDADcDALcDOTLESS BEH
dFEHdNOONdQAFcDOUBLE-STRUCK AINdBEHdDADdDALdFEHdGHAINdHAHdJEEMdKHAHdLAMdMEEMdNOONdQAFdREHdSADdSEEN
dSHEENdTAHdTEHdTHALdTHEHdWAWdYEHdZAHdZAINcFEHcGHAINcHAHcINITIAL AINdBEHdDADdFEHdGHAINdHAHdHEHdJEEM
dKAFdKHAHdLAMdMEEMdNOONdQAFdSADdSEENdSHEENdTEHdTHEHdYEHcJEEMcKAFcKHAHcLAMcLOOPED AINdALEFdBEHdDAD
dDALdFEHdGHAINdHAHdHEHdJEEMdKHAHdLAMdMEEMdNOONdQAFdREHdSADdSEENdSHEENdTAHdTEHdTHALdTHEHdWAWdYEH
dZAHdZAINcMEEMcNOONcOPERATOR HAH WITH DALdMEEM WITH HAH WITH TATWEELcQAFcREHcSADcSEENcSHEEN
cSTRETCHED AINdBEHdDADdDOTLESS BEHeFEHdFEHdGHAINdHAHdHEHdJEEMdKAFdKHAHdMEEMdNOONdQAFdSADdSEEN
dSHEENdTAHdTEHdTHEHdYEHdZAHcTAHcTAILED AINdDADdDOTLESS NOONeQAFdGHAINdHAHdJEEMdKHAHdLAMdNOONdQAF
dSADdSEENdSHEENdYEHcTEHcTHALcTHEHcWAWcYEHcZAHcZAINbNUMBER MARK ABOVEcSIGNbOPEN DAMMATANcFATHATAN
cKASRATANbPERCENT SIGNbPIASTRE MARK ABOVEbPLACE OF SAJDAHbPOETIC VERSE SIGNbPOUND MARK ABOVE
bQUESTION MARKbRAISED ROUND DOTbRAYbREVERSED DAMMAbRIGHT ARROWHEAD ABOVEeWITH DOTdBELOW
bROUNDED HIGH STOP WITH FILLED CENTREbSEMICOLONbSHADDAcISOLATED FORMcMEDIAL FORM
bSIGN ALAYHE ASSALLAMcMISRAcRADI ALLAHOU ANHUcRAHMATULLAH ALAYHEcSAFHA
cSALLALLAHOU ALAYHE WASSALLAMcSAMVATcSANAHcSINDHI AMPERSANDdPOSTPOSITION MENcTAKHALLUSbSMALL DAMMA
cFARSI YEHcFATHAcHIGH AINdDOTLESS HEAD OF KHAHdFARSI YEHdFOOTNOTE MARKERdJEEMdLAM ALEF
dLIGATURE ALEF WITH LAM WITH YEHeQAF WITH LAM WITH ALEF MAKSURAeSAD WITH LAM WITH ALEF MAKSURA
dMADDAdMEEM INITIAL FORMeISOLATED FORMdNOONeWITH KASRAdQAFdROUNDED ZEROdSADdSEENdSIGN SAFHAdTAH
dTHREE DOTSdUPRIGHT RECTANGULAR ZEROdWAWdWORD AL-JUZeAN-NISFeAR-RUBeAS-SAJDAeATH-THALATHAeQIFeSAH
eSAKTAeWAQFAdYEHeBARREE WITH TWO DOTS BELOWdZAHdZAINcKASRAcLOW MEEMdNOON WITH KASRAdSEENdWAW
dWORD IMAALAeISHMAAMeTASHEELcWAWcYEHbSTART OF RUB EL HIZBbSUBSCRIPT ALEFbSUKUNcBELOWcISOLATED FORM
cMEDIAL FORMbSUPERSCRIPT ALEF MOKHASSASbSYMBOL DOT ABOVEdBELOWcDOUBLE VERTICAL BAR BELOW
cFOUR DOTS ABOVEeBELOWcRINGcSMALL TAH ABOVEeBELOWcTHREE DOTS ABOVEeBELOWePOINTING DOWNWARDS ABOVE
gBELOWcTWO DOTS ABOVEeBELOWeVERTICALLY ABOVEfBELOWcWASLA ABOVEbTAIL FRAGMENTbTATWEEL
cWITH FATHATAN ABOVEdOVERSTRUCK HAMZAeWAWdTWO DOTS BELOWbTHOUSANDS SEPARATORbTONE LOOP ABOVEdBELOW
cONE DOT ABOVEeBELOWcTWO DOTS ABOVEeBELOWbTRIPLE DOT PUNCTUATION MARKbTURNED DAMMA BELOW
bVERTICAL TAILbVOWEL SIGN DOT BELOWdINVERTED SMALL V ABOVEdSMALL V ABOVEbWAVY HAMZA BELOWbZWARAKAY
aARABIC-INDIC CUBE ROOTbDIGIT EIGHTcFIVEcFOURcNINEcONEcSEVENcSIXcTHREEcTWOcZERObFOURTH ROOT
bPER MILLE SIGNcTEN THOUSAND SIGNaARCaARIESaARMENIAN ABBREVIATION MARKbAPOSTROPHE
bCAPITAL LETTER AYBdBENdCAdCHAdCHEHdCOdDAdECHdEHdETdFEHdGHADdGIMdHOdINIdJAdJHEHdKEHdKENdLIWNdMEN
dNOWdOHdPEHdPIWRdRAdREHdSEHdSHAdTIWNdTOdVEWdVOdXEHdYIdYIWNdZAdZHEbCOMMAbDRAM SIGNbEMPHASIS MARK
bEXCLAMATION MARKbFULL STOPbHYPHENbMODIFIER LETTER LEFT HALF RINGbQUESTION MARKbSMALL LETTER AYB
dBENdCAdCHAdCHEHdCOdDAdECHdEHdETdFEHdGHADdGIMdHOdINIdJAdJHEHdKEHdKENdLIWNdMENdNOWdOHdPEHdPIWRdRA
dREHdSEHdSHAdTIWNdTOdTURNED AYBdVEWdVOdXEHdYIeWITH STROKEdYIWNdZAdZHEcLIGATURE ECH YIWNdMEN ECH
eINIeNOWeXEHdVEW NOWaARROW POINTING DOWNWARDS THEN CURVING LEFTWARDSfRIGHTWARDS
cRIGHTWARDS THEN CURVING DOWNWARDSfSOUTH WESTfUPWARDScUPWARDS THEN NORTH WEST
aARROWHEAD-SHAPED POINTERaARTICULATED LORRYaARTIST PALETTEaASCENDING NODEaASCIA SYMBOLaASSERTION
aASTERISKbOPERATORaASTERISMaASTONISHED FACEaASTRAEAaASTRONOMICAL SYMBOL FOR URANUS
aASYMPTOTICALLY EQUAL TOaATHLETIC SHOEaATOM SYMBOLaAUBERGINEaAUSTRAL SIGNaAUTO RICKSHAW
aAUTOMATED TELLER MACHINEaAUTOMOBILEaAVESTAN ABBREVIATION MARKbLETTER AcAAcAANcAAOcAEcAEEcANcAOcBE
cBHEcCEcDEcDHEcEcEEcFEcGEcGGEcGHEcHEcHMEcIcIIcJEcKEcLEcMEcNEcNGEcNGVEcNGYEcNNEcNYEcOcOOcPEcREcSE
cSHEcSHYEcSSHEcTEcTHEcTTEcUcUUcVEcXEcXVEcXYEcYEcYYEcZEcZHEaAVOCADOaAXEaBABYbANGELbBOTTLEbCHICK
bSYMBOLaBACK OF ENVELOPEbWITH LEFTWARDS ARROW ABOVEaBACK-TILTED SHADOWED WHITE RIGHTWARDS ARROW
aBACKSLANTED SOUTH ARROW WITH HOOKED TAILeHORIZONTAL TAILaBACKSPACEaBACONaBACTRIAN CAMELaBADGER
aBADMINTON RACQUET AND SHUTTLECOCKaBAGELaBAGGAGE CLAIMaBAGUETTE BREADaBALINESE ADEG ADEG
bCARIK PAMUNGKAHcPARERENcSIKIbDIGIT EIGHTcFIVEcFOURcNINEcONEcSEVENcSIXcTHREEcTWOcZERO
bLETTER AIKARAcAKARAdTEDUNGcARCHAIC JNYAcASYURA SASAKcBAdKEMBANGcCAdLACAcDAdMADUdMURDA ALPAPRANA
eMAHAPRANAcEF SASAKcEKARAcGAdGORAcHAcIKARAdTEDUNGcJAdJERAcKAdMAHAPRANAcKAF SASAKcKHOT SASAKcLA
dLENGAeTEDUNGcMAcNAdRAMBATcNGAcNYAcOKARAdTEDUNGcPAdKAPALcRAdREPAeTEDUNGcSAdSAGAdSAPAcTAdLATIK
dMURDA MAHAPRANAdTAWAcTZIR SASAKcUKARAdTEDUNGcVE SASAKcWAcYAcZAL SASAK
bMUSICAL SYMBOL COMBINING BENDEeENDEPeGONGeJEGOGANeKEMPLIfWITH JEGOGANeKEMPULfWITH JEGOGANeTEGEH
dDAENGdDAINGdDANGeGEDEeSURANGdDENGdDEUNGdDINGdDONGdDUNGdLEFT-HAND CLOSED PLAKfPLUKeOPEN PANGfPING
fPUNGdRIGHT-HAND CLOSED TAKfTUKeOPEN DAGfDUGbPAMADAcLANTANGbPAMENENGbPANTIcLANTANGbSIGN BISAH
cCECEKcREREKANcSURANGcULU CANDRAdRICEMbVOWEL SIGN LA LENGAfTEDUNGdPEPETeTEDUNGdRA REPAfTEDUNGdSUKU
eILUTdTALINGeREPAfTEDUNGeTEDUNGdTEDUNGdULUeSARIbWINDUaBALL OF YARNaBALLET SHOESaBALLOON
aBALLOON-SPOKED ASTERISKaBALLOT BOLD SCRIPT XbBOXcWITH BALLOTdBOLD CHECKeSCRIPT XdCHECKdLIGHT X
dSCRIPT XdXbSCRIPT XbXaBAMUM COLONbCOMBINING MARK KOQNDONdTUKWENTISbCOMMAbFULL STOPbLETTER AcEE
cFAAMAEcFEEcFOMcFUcIcKAcKENcKETcKEUXcKIcKOcKOGHOMcKOVUUcKPAcKUcKYEEcLAcLEEEEcLIcLOQcLUcMcMAcMBAA
cMBENcMEEEEcMENcMIcMOcMUcNAcNDAAcNGAcNGGAcNGKWAENcNIcNJAEMcNJEEcNJUAEcNSHAcNTEEcNTUUcNUcNUAEcNYIcO
cPAcPEEcPEUXcPHASE-A FIRIdGBIEE FONdGHEUAEGHEUAEdGHEUAERAEdKAFAdKAQdKETdKEUKEUTNDAdKPOQdKUOQdLAPAQ
dLET KUTdLOMMAEdLUdLUAEPdMAEKEUPdMAEMdMAEMBGBIEEdMAEMKPENdMAEMVEUXdMAENYIdMAESIdMANSUAEdMAP PIEET
dMBANYIdMBAQdMEUNJOMNDEUQdMGBASAdMON NGGEUAETdMOOMEUTdMOOMPUQdMVEUAENGAMdNAA MFONdNAQdNDA LEERAEWA
dNDAANGGEUAETdNENdNGANGUdNGGENdNGKUE MFONdNGKUENZEUMdNIKAdNJAMdNKAARAEdNKINDIdNSHAdNSHIEEdNTAP
eMFAAeNTAAdNTOQPENdNYETdNYIdNYIT MONGKEUAEQdNZA MFONdNZUN MEUTdPA LEERAEWAdPAAMdPAARAEdPAMSHAE
dPASHAEdPETdPON MFON PIPAEMBAfPIPAEMGBIEEePA NJI PIPAEMBAgPIPAEMGBIEEdPUPdROMdSEUNYAM
dSHINDA PA NJIdSHIRAEdSHOQ NSHUT YUMdSHUENSHUETdSHUMdSISAdSONJAMdSOQdSOTdSUUdTEUAENdTEUTEUWEN
dTITA MFONdTU MAEMBAdTUAEPdU YUQ NAEdUNKNOWNdVEEcPHASE-B FEEdFEUXdGHEUGHENdGHEUGHEUAEMdKAMdKEUAEM
dKEUPUQdKEUYEUXdKIEEMdKIQdLAANAEdLAM NSHUT NYAMdLETdLOM NTEUMdMAeNJEUAENAeNJUQAdMBA MAELEEdMBAARAE
dMBEURIdMBIT MBAAKETdMBUOQdMEUQdMEUT NGGEETdMFIYAQdMFON TEUAEQdMONTIEENdNDU NJAAdNGGAAMdNGGEU MBU
dNGGUOQeLARGEdNGKINDI MVOPdNGOMdNSENdNSHUETdNTIEE SHEUOQdNYAEMAEdNYI NTEUMdPARUMdPEESHIdPIT
dPUNGAAMdSAKEUAEdSET TUdSHET NJAQdSHEUAEQTUdSIEEdSUEdTAAMdTU MAEMGBIEEeNSIEEdVEUMdWUAET
dYAFU LEERAEWAdYEURAEcPHASE-C BUNGdFUEdGBAYIdGHAPdGHARAEdKAAdKEN FATIGUEeLAWdKETdKEUKAQdKEUM
dKEUSEUXdKEUSHEUAEPdKPARAQdKUOP NKAARAEdKUTdLAMdLAPdLIQdLUdMA KEUAERIeNSIEEdMAEMBAdMAESI
dMBAA CABBAGE-TREEePICKETdMBANYIdMBEEKEETdMBERAEdMBEUMdMBEUXdMBIdMBIRIEENdMBITdMBUAEMdMBUEdMGBASAQ
dMIEEdMUAEdNANSANAQdNAQdNDAMdNDAPdNDEUAEREEdNDEUTdNDIDAdNDOMBUdNGAQdNGGENdNGGUdNGGUAEN NYAM
dNGGUEETdNGGUMdNGGUONdNGKAQdNGKUE MAEMBAdNGOMdNJAEMdNJAMdNJEEEEdNJEUXdNJUEQdNSAdNSEUAENdNSHAQdNSOM
dNSUNdNSUOT NGOMdNTAAdNTENdNTEUNGBAdNTU MBITdNYIR MKPARAQ MEUNdNZAdNZEUMdPENdPINdPIRIEENdRUdSETFON
dSEUXdSHIQdSHUEQdSUAETdTAASHAEdTETdTEUTEUXdTITA YUEdTITUAEPdVEUAEPENdVEUXdWANGKUOQdWUPdYAAdYEUQ
dYU MUOMAEdYUMdYUWOQcPHASE-D FAAdFEUFEUAETdGHAAdGHEUAEdKETdKEUAETMEUNdKEUMdKEUOT MBUAEdKEUPdKUdKUN
dKUOMdKUQdKWAETdKYEEdLEEEEdLETdLEUAEPdLEUMdLIEEdLOQdLUMdMdMAENJETdMALEERIdMBAAeSEVENdMBUOdMEEEE
dMEUNdMEUTdMFEUAEdMFEUTdMFIEEdMFOdMFONdMGBEUNdMGBIEEdMGBOFUMdMONIdMUdMVOPdNDAMdNDEEdNDEUXdNDON
dNGGAAMdNGGAAMAEdNGGAPdNGGEUXdNGGUOMdNGGWAENdNGKAPdNGKEUAEQdNGKEURIdNGKIEEdNGKUNdNGKYEEdNIdNJAP
dNJEUAEMdNJEUTdNJIdNJIEEdNJUEQdNSHEEdNSHUTdNSIEEPdNSIEETdNSUMdNTEEdNTEUMdNTUUdNUdNYAMdNYETdNYI
dNYUEdPAPdPEEdPEUTAEdPIPdPUQdPUUTdRAEMdREN MUCHeOLDdRIIdSAPdSAQdSEUAEQdSHEEdSHEUAEdSHEUXdSHIIdSHOQ
dSHUdSOTdSUAEdSUEdSUUdTAEdTEEEEdTEUAENdTEUNdTEUTdTIdTOQdTUdTUOTdWAPdWUAENdYAEMMAEdYENdYUOMdYUOP
dYUWOQcPHASE-E AdFAdFAQdFEEdFOMdFU CALLeIeREMEDYdFUEdFUETdGBETdGBEUXdGHAAMAEdGHETdGHEUAEdGHEUN
dGHEUXdGHOMdIdKETdKEUAEdKEUXdKIdKOdKPEUXdKUETdKUOPdKUTdLAAMdLAPdLAQdLEUAEMdLOMdLOONdLOOTdLOQdLUdMA
dMAEdMAEMdMAPdMAQdMBEEdMBEUMdMENdMFEUQdMGBAdMGBENdMIdMIEEdMONdMUAEdMVIdNAdNAEdNDAA MY HOUSE
eSOFTNESSdNDAPdNDIAQdNDIQdNDUNdNGAdNGEUREUTdNGGEEEEdNGGEUAEdNGGEUAETdNGGUAESHAE NYAMdNGGUPdNGGURAE
dNGKAdNGKAAMIdNGKEUAEMdNGKEUXdNGKUMdNGKUPdNGOPdNGOQdNGUAEdNGUAETdNJAEMLIdNJEEeEPOCHdNJEUXdNKOM
dNSHIEEdNSHUEdNSHUOPdNTAPdNTUMdNYI BETWEENeCLEAVERdNZAQdNZUQdOdPA PEOPLEePLURALdPAAdPAAMdPEEMdPEUT
dPEUXdPIdPIEEQdPIETdPOdPOONdPUdPUAEdPUAQdPUEdPUMdRAEdRAQdREUXdRIMGBAdSAAdSEEdSETdSHEUAEQdSHIQdSHO
dSHOQdSOMdSUAENdTAAdTAAQdTAEN NTEUMdTAMdTAQdTENdTEUdTEUAEQdTOOdTOONdTOQdTUAEdTUMdTUMAEdVEEdVEUAE
dVOMdWEUXdWUEdWUOdYAPdYEUAEdYEUAETdYEUMdYEUXdYIEEdYITdYOQ COVEReSWIMMINGdYUAENdYUEQdYUNdYUQ
cPHASE-F EEdFOMdKAdKENdKETdKOdKPAdKUdKYEEdLAdLIdLOQdMdMAdMBAAdMBENdMEEEEdMOdNDAAdNGGAdNGKWAENdNI
dNJAEMdNJUAEdNSHAdNTEEdNUdNUAEdNYIdPEEdPEUXdPUAEdREEdRENdREUXdRIEEdRIIdRUdSAMBAdSEUXdSHIIdSHOdSHU
dSIdSUUdTAAdTAEdTETdUdVUEQdWAdWUEdYAdYOQcPIcPUAEcPUEcRAEcREEcRENcREUXcRIEEcRIIcRUcSAMBAcSEUXcSHEUX
cSHIIcSHOcSHUcSIcSUUcTAAcTAEcTENcTETcTIcUcWAcWUEcYAcYOQcYUQbNJAEMLIbQUESTION MARKbSEMICOLONaBANANA
aBANJOaBANKaBANKNOTE WITH DOLLAR SIGNcEURO SIGNcPOUND SIGNcYEN SIGNaBAR CHARTbOF SOAPaBARBER POLE
aBASEBALLaBASKETaBASKETBALL AND HOOPaBASSA VAH COMBINING HIGH TONEdHIGH-LOW TONEdLOW TONE
dLOW-MID TONEdMID TONEcFULL STOPcLETTER AdBAdCEdDHIIdDOdEdEEdENNIdFAdGAHdGBUdHWAHdIdJOdKAdKPAHdMBE
dOdOOdPAdSEdTOdUdUWUdVUdWAdWADDAdYEINdYIEdZOaBATaBATAK CONSONANT SIGN HdNGbLETTER AcBAcCAcDAcGAcHA
cIcJAcKARO BAcLAcMAcMANDAILING HAdNAdSAcMBAcNAcNDAcNGAcNORTHERN TAcNYAcPAcPAKPAK WAcRAcSA
cSIMALUNGUN AdGAdHAdLAdMAdPAdRAdSAdWAdYAcSOUTHERN TAcUcWAcYAbPANGOLATbPANONGONANbSIGN TOMPI
bSYMBOL BINDU JUDULdNA METEKdPANGOLATdPINARBORASbVOWEL SIGN EdEEdIdKARO IeOdOdPAKPAK EdU
eFOR SIMALUNGUN SAaBATHaBATHTUBaBATTERYaBEACH WITH UMBRELLAaBEAMED ASCENDING MUSICAL NOTES
bDESCENDING MUSICAL NOTESbEIGHTH NOTESbSIXTEENTH NOTESaBEANSaBEAR FACEaBEARDED PERSON
aBEATING HEARTaBEAVERaBECAUSEaBEDaBEER MUGaBEETLEaBELaBELLbPEPPERbSYMBOLbWITH CANCELLATION STROKE
aBELLHOP BELLaBENGALI ABBREVIATION SIGNbANJIbAU LENGTH MARKbCURRENCY DENOMINATOR SIXTEEN
cNUMERATOR FOURdONEeLESS THAN THE DENOMINATORdTHREEdTWObDIGIT EIGHTcFIVEcFOURcNINEcONEcSEVENcSIX
cTHREEcTWOcZERObGANDA MARKbISSHARbLETTER AcAAcAIcAUcBAcBHAcCAcCHAcDAcDDAcDDHAcDHAcEcGAcGHAcHAcIcII
cJAcJHAcKAcKHAcKHANDA TAcLAcMAcNAcNGAcNNAcNYAcOcPAcPHAcRAdWITH LOWER DIAGONALeMIDDLE DIAGONALcRHA
cRRAcSAcSHAcSSAcTAcTHAcTTAcTTHAcUcUUcVEDIC ANUSVARAcVOCALIC LdLLdRdRRcYAcYYAbRUPEE MARKcSIGN
bSANDHI MARKbSIGN ANUSVARAcAVAGRAHAcCANDRABINDUcNUKTAcVIRAMAcVISARGAbVOWEL SIGN AAdAIdAUdEdIdIIdO
dUdUUdVOCALIC LeLLeReRRaBENT ARROW POINTING DOWNWARDS THEN NORTH EASTaBENTO BOXaBENZENE RING
cWITH CIRCLEaBET SYMBOLaBETWEENaBEVERAGE BOXaBHAIKSUKI DANDAbDIGIT EIGHTcFIVEcFOURcNINEcONEcSEVEN
cSIXcTHREEcTWOcZERObDOUBLE DANDAbGAP FILLER-1cFILLER-2bHUNDREDS UNIT MARKbLETTER AcAAcAIcAUcBAcBHA
cCAcCHAcDAcDDAcDDHAcDHAcEcGAcGHAcHAcIcIIcJAcJHAcKAcKHAcLAcMAcNAcNGAcNNAcNYAcOcPAcPHAcRAcSAcSHAcSSA
cTAcTHAcTTAcTTHAcUcUUcVAcVOCALIC LdRdRRcYAbNUMBER EIGHTcEIGHTYcFIFTYcFIVEcFORTYcFOURcNINEcNINETY
cONEcSEVENcSEVENTYcSIXcSIXTYcTENcTHIRTYcTHREEcTWENTYcTWObSIGN ANUSVARAcAVAGRAHAcCANDRABINDUcVIRAMA
cVISARGAbVOWEL SIGN AAdAIdAUdEdIdIIdOdUdUUdVOCALIC LeReRRbWORD SEPARATORaBICYCLEaBICYCLIST
aBIG REVERSE SOLIDUSbSOLIDUSaBIKINIaBILLED CAPaBILLIARDSaBIOHAZARD SIGNaBIRDaBIRTHDAY CAKEaBISON
aBITCOIN SIGNaBITING LIPaBLACK BOWTIEbCENTRE WHITE STARbCHESS BISHOPdROTATED NINETY DEGREES
eTWO HUNDRED SEVENTY DEGREEScEQUIHOPPERdROTATED NINETY DEGREEScKINGdROTATED NINETY DEGREES
eTWO HUNDRED SEVENTY DEGREEScKNIGHTdROTATED FORTY-FIVE DEGREESeNINETY DEGREES
eONE HUNDRED THIRTY-FIVE DEGREESeTHREE HUNDRED FIFTEEN DEGREESeTWO HUNDRED SEVENTY DEGREES
gTWENTY-FIVE DEGREEScKNIGHT-BISHOPcKNIGHT-QUEENcKNIGHT-ROOKcPAWNdROTATED NINETY DEGREES
eTWO HUNDRED SEVENTY DEGREEScQUEENdROTATED NINETY DEGREESeTWO HUNDRED SEVENTY DEGREEScROOK
dROTATED NINETY DEGREESeTWO HUNDRED SEVENTY DEGREEScTURNED BISHOPdKINGdKNIGHTdPAWNdQUEENdROOK
bCIRCLEcFOR RECORDcWITH DOWN ARROWdTWO WHITE DOTSdWHITE DOT RIGHTbCLUB SUITbCROSS ON SHIELD
bCURVED DOWNWARDS AND LEFTWARDS ARROWeRIGHTWARDS ARROWcLEFTWARDS AND DOWNWARDS ARROWeUPWARDS ARROW
cRIGHTWARDS AND DOWNWARDS ARROWeUPWARDS ARROWcUPWARDS AND LEFTWARDS ARROWeRIGHTWARDS ARROWbDIAMOND
cCENTREDcMINUS WHITE XcON CROSScSUITcWITH DOWN ARROWbDOWN POINTING BACKHAND INDEX
bDOWN-POINTING DOUBLE TRIANGLEcISOSCELES RIGHT TRIANGLEcSMALL TRIANGLEcTRIANGLE
bDOWNWARDS EQUILATERAL ARROWHEADbDRAUGHTS KINGcMANbDROPLETbFLAGbFLORETTEbFOLDERbFOUR POINTED STAR
bHARD SHELL FLOPPY DISKbHEARTcSUITbHEXAGONbHORIZONTAL ELLIPSEbHOURGLASSbLARGE CIRCLEcSQUARE
bLEFT LANE MERGEcPOINTING BACKHAND INDEXdINDEXbLEFT-POINTING DOUBLE TRIANGLEeWITH VERTICAL BAR
cISOSCELES RIGHT TRIANGLEcPOINTERcSMALL TRIANGLEcTRIANGLEbLEFTWARDS BULLETcEQUILATERAL ARROWHEAD
bLOWER LEFT TRIANGLEcRIGHT TRIANGLEbLOZENGEbMEDIUM DIAMONDcDOWN-POINTING TRIANGLEeCENTRED
cLEFT-POINTING TRIANGLEeCENTREDcLOZENGEcRIGHT-POINTING TRIANGLEeCENTREDcSMALL DIAMONDdLOZENGE
dSQUAREcSQUAREcUP-POINTING TRIANGLEeCENTREDbMOON LILITHbNIBbOCTAGONbPARALLELOGRAMbPENNANTbPENTAGON
bPUSHPINbQUESTION MARK ORNAMENTbRECTANGLEbRIGHT POINTING BACKHAND INDEXdINDEX
bRIGHT-POINTING DOUBLE TRIANGLEeWITH VERTICAL BARcISOSCELES RIGHT TRIANGLEcPENTAGONcPOINTER
cSMALL TRIANGLEcTRIANGLEdWITH DOUBLE VERTICAL BARbRIGHTWARDS ARROWcARROWHEADcBULLET
cEQUILATERAL ARROWHEADbROSETTEbSAFETY SCISSORSbSCISSORSbSHOGI PIECEbSKULL AND CROSSBONES
bSLIGHTLY SMALL CIRCLEdSQUAREbSMALL DIAMONDcLOZENGEcSQUAREcSTARbSMILING FACEbSNOWMANbSPADE SUIT
bSQUAREcBUTTONcCENTREDcFOR STOPbSTARbSUN WITH RAYSbTELEPHONEbTINY DIAMONDcLOZENGEcSQUARE
bTOUCHTONE TELEPHONEbTRUCKbTWO-WAY LEFT WAY TRAFFICbUNIVERSAL RECYCLING SYMBOL
bUP POINTING BACKHAND INDEXbUP-POINTING DOUBLE TRIANGLEcISOSCELES RIGHT TRIANGLEcSMALL TRIANGLE
cTRIANGLEbUPPER LEFT TRIANGLEcRIGHT TRIANGLEbUPWARDS EQUILATERAL ARROWHEADbVERTICAL ELLIPSE
cRECTANGLEbVERY SMALL DIAMONDdLOZENGEdSQUAREaBLACK-FEATHERED NORTH EAST ARROWbRIGHTWARDS ARROW
bSOUTH EAST ARROWaBLACK-LETTER CAPITAL CcHcIcRcZaBLANK SYMBOLaBLOCK SEXTANT-1bSEXTANT-12
bSEXTANT-123bSEXTANT-1234bSEXTANT-12345bSEXTANT-12346bSEXTANT-1235bSEXTANT-12356bSEXTANT-1236
bSEXTANT-124bSEXTANT-1245bSEXTANT-12456bSEXTANT-1246bSEXTANT-125bSEXTANT-1256bSEXTANT-126
bSEXTANT-13bSEXTANT-134bSEXTANT-1345bSEXTANT-13456bSEXTANT-1346bSEXTANT-1356bSEXTANT-136
bSEXTANT-14bSEXTANT-145bSEXTANT-1456bSEXTANT-146bSEXTANT-15bSEXTANT-156bSEXTANT-16bSEXTANT-2
bSEXTANT-23bSEXTANT-234bSEXTANT-2345bSEXTANT-23456bSEXTANT-2346bSEXTANT-235bSEXTANT-2356
bSEXTANT-236bSEXTANT-24bSEXTANT-245bSEXTANT-2456bSEXTANT-25bSEXTANT-256bSEXTANT-26bSEXTANT-3
bSEXTANT-34bSEXTANT-345bSEXTANT-3456bSEXTANT-346bSEXTANT-35bSEXTANT-356bSEXTANT-36bSEXTANT-4
bSEXTANT-45bSEXTANT-456bSEXTANT-46bSEXTANT-5bSEXTANT-56bSEXTANT-6aBLOSSOMaBLOWFISHaBLUE BOOKbHEART
aBLUEBERRIESaBOARaBOLD EIGHT SPOKED ASTERISKbFIVE SPOKED ASTERISKbGREEK CROSSbSALTIRE
bSIX SPOKED ASTERISKbWHITE CIRCLEcSQUAREaBOMaBOMBaBONEaBOOKaBOOKMARKbTABSaBOOKSaBOOMERANG
aBOPOMOFO FINAL LETTER GdHdKdPdTbLETTER AcAHcAIcAINNcAMcANcANGcANNcAUcAUNNcBcBUcCcCHcDcEcEEcEHcEI
cENcENGcENNcERcFcGcGHcGNcGUcGWcHcIcIHcIMcINNcINNNcIRcIUcJcJIcKcKWcLcLHcMcNcNGcNGGcNNcO
dWITH DOT ABOVEcOEcOMcONGcONNcOOcOUcPcQcRcScSHcTcUcUNNcVcXcZcZHcZIcZYaBOTTLE WITH POPPING CORK
aBOTTOM ARC ANTICLOCKWISE ARROWbCURLY BRACKETbHALF BLACK CIRCLEcINTEGRALcLEFT PARENTHESIS
cRIGHT PARENTHESISbLEFT CORNERcCROPcHALF BRACKETbPARENTHESISbRIGHT CORNERcCROPcHALF BRACKET
bSQUARE BRACKETdOVER TOP SQUARE BRACKETbTORTOISE SHELL BRACKETaBOUQUETbOF FLOWERSaBOW AND ARROW
aBOWL OF HYGIEIAbWITH SPOONaBOWLINGaBOWTIEbWITH LEFT HALF BLACKcRIGHT HALF BLACK
aBOX DRAWINGS DOUBLE DOWN AND HORIZONTALfLEFTfRIGHTdHORIZONTALdUP AND HORIZONTALfLEFTfRIGHT
dVERTICALeAND HORIZONTALfLEFTfRIGHTcDOWN DOUBLE AND HORIZONTAL SINGLEfLEFT SINGLEfRIGHT SINGLE
dHEAVY AND HORIZONTAL LIGHTfLEFT LIGHTgUP LIGHTfRIGHT LIGHTgUP LIGHTfUP HORIZONTAL LIGHT
dLIGHT AND HORIZONTAL HEAVYfLEFT HEAVYgUP HEAVYfRIGHT HEAVYgUP HEAVYfUP HORIZONTAL HEAVY
dSINGLE AND HORIZONTAL DOUBLEfLEFT DOUBLEfRIGHT DOUBLEcHEAVY DOUBLE DASH HORIZONTALfVERTICALdDOWN
eAND HORIZONTALfLEFTfRIGHTdHORIZONTALdLEFTeAND LIGHT RIGHTdQUADRUPLE DASH HORIZONTALfVERTICAL
dRIGHTdTRIPLE DASH HORIZONTALfVERTICALdUPeAND HORIZONTALfLEFTfLIGHT DOWNfRIGHTdVERTICAL
eAND HORIZONTALfLEFTfRIGHTcLEFT DOWN HEAVY AND RIGHT UP LIGHTdHEAVY AND RIGHT DOWN LIGHTgUP LIGHT
gVERTICAL LIGHTdLIGHT AND RIGHT DOWN HEAVYgUP HEAVYgVERTICAL HEAVYdUP HEAVY AND RIGHT DOWN LIGHT
cLIGHT ARC DOWN AND LEFTgRIGHTeUP AND LEFTgRIGHTdDIAGONAL CROSSeDIAMOND
eMIDDLE LEFT TO LOWER CENTREjTO MIDDLE RIGHThUPPER CENTRE TO MIDDLE RIGHTmTO LOWER CENTRE
fRIGHT TO LOWER CENTREhUPPER CENTRE TO MIDDLE LEFT TO LOWER CENTREeUPPER CENTRE TO MIDDLE LEFT
jAND MIDDLE RIGHT TO LOWER CENTREjTO LOWER CENTREmTO MIDDLE RIGHTiRIGHT
jAND MIDDLE LEFT TO LOWER CENTREjTO LOWER CENTREmTO MIDDLE LEFTfLEFT TO LOWER RIGHT
fRIGHT TO LOWER LEFTdDOUBLE DASH HORIZONTALfVERTICALdDOWNeAND HORIZONTALfLEFTfRIGHTdHORIZONTAL
eWITH VERTICAL STROKEdLEFTeAND HEAVY RIGHTdQUADRUPLE DASH HORIZONTALfVERTICALdRIGHT
dTRIPLE DASH HORIZONTALfVERTICALdUPeAND HEAVY DOWNfHORIZONTALfLEFTfRIGHTdVERTICALeAND HORIZONTAL
fLEFTfRIGHTcRIGHT DOWN HEAVY AND LEFT UP LIGHTdHEAVY AND LEFT DOWN LIGHTgUP LIGHTgVERTICAL LIGHT
dLIGHT AND LEFT DOWN HEAVYgUP HEAVYgVERTICAL HEAVYdUP HEAVY AND LEFT DOWN LIGHT
cUP DOUBLE AND HORIZONTAL SINGLEfLEFT SINGLEfRIGHT SINGLEdHEAVY AND DOWN HORIZONTAL LIGHT
fHORIZONTAL LIGHTfLEFT DOWN LIGHTgLIGHTfRIGHT DOWN LIGHTgLIGHTdLIGHT AND DOWN HORIZONTAL HEAVY
fHORIZONTAL HEAVYfLEFT DOWN HEAVYgHEAVYfRIGHT DOWN HEAVYgHEAVYdSINGLE AND HORIZONTAL DOUBLE
fLEFT DOUBLEfRIGHT DOUBLEcVERTICAL DOUBLE AND HORIZONTAL SINGLEfLEFT SINGLEfRIGHT SINGLE
dHEAVY AND HORIZONTAL LIGHTfLEFT LIGHTfRIGHT LIGHTdLIGHT AND HORIZONTAL HEAVYfLEFT HEAVY
fRIGHT HEAVYdSINGLE AND HORIZONTAL DOUBLEfLEFT DOUBLEfRIGHT DOUBLEaBOXING GLOVEaBOYaBOYS SYMBOL
aBPHaBRAHMI DANDAbDIGIT EIGHTcFIVEcFOURcNINEcONEcSEVENcSIXcTHREEcTWOcZERObDOUBLE DANDAbLETTER AcAA
cAIcAUcBAcBHAcCAcCHAcDAcDDAcDDHAcDHAcEcGAcGHAcHAcIcIIcJAcJHAcKAcKHAcLAcLLAcMAcNAcNGAcNNAcNYAcO
cOLD TAMIL LLAeLLLAeNNNAeRRAeSHORT EfOcPAcPHAcRAcSAcSHAcSSAcTAcTHAcTTAcTTHAcUcUUcVAcVOCALIC LdLLdR
dRRcYAbNUMBER EIGHTcEIGHTYcFIFTYcFIVEcFORTYcFOURcJOINERcNINEcNINETYcONEdHUNDREDdTHOUSANDcSEVEN
cSEVENTYcSIXcSIXTYcTENcTHIRTYcTHREEcTWENTYcTWObPUNCTUATION CRESCENT BARcDOTcDOUBLE DOTcLINEcLOTUS
bSIGN ANUSVARAcCANDRABINDUcJIHVAMULIYAcOLD TAMIL VIRAMAcUPADHMANIYAcVISARGAbVIRAMAbVOWEL SIGN AA
dAIdAUdBHATTIPROLU AAdEdIdIIdOdOLD TAMIL SHORT EgOdUdUUdVOCALIC LeLLeReRRaBRAILLE PATTERN BLANK
cDOTS-1cDOTS-12cDOTS-123cDOTS-1234cDOTS-12345cDOTS-123456cDOTS-1234567cDOTS-12345678cDOTS-1234568
cDOTS-123457cDOTS-1234578cDOTS-123458cDOTS-12346cDOTS-123467cDOTS-1234678cDOTS-123468cDOTS-12347
cDOTS-123478cDOTS-12348cDOTS-1235cDOTS-12356cDOTS-123567cDOTS-1235678cDOTS-123568cDOTS-12357
cDOTS-123578cDOTS-12358cDOTS-1236cDOTS-12367cDOTS-123678cDOTS-12368cDOTS-1237cDOTS-12378cDOTS-1238
cDOTS-124cDOTS-1245cDOTS-12456cDOTS-124567cDOTS-1245678cDOTS-124568cDOTS-12457cDOTS-124578
cDOTS-12458cDOTS-1246cDOTS-12467cDOTS-124678cDOTS-12468cDOTS-1247cDOTS-12478cDOTS-1248cDOTS-125
cDOTS-1256cDOTS-12567cDOTS-125678cDOTS-12568cDOTS-1257cDOTS-12578cDOTS-1258cDOTS-126cDOTS-1267
cDOTS-12678cDOTS-1268cDOTS-127cDOTS-1278cDOTS-128cDOTS-13cDOTS-134cDOTS-1345cDOTS-13456
cDOTS-134567cDOTS-1345678cDOTS-134568cDOTS-13457cDOTS-134578cDOTS-13458cDOTS-1346cDOTS-13467
cDOTS-134678cDOTS-13468cDOTS-1347cDOTS-13478cDOTS-1348cDOTS-135cDOTS-1356cDOTS-13567cDOTS-135678
cDOTS-13568cDOTS-1357cDOTS-13578cDOTS-1358cDOTS-136cDOTS-1367cDOTS-13678cDOTS-1368cDOTS-137
cDOTS-1378cDOTS-138cDOTS-14cDOTS-145cDOTS-1456cDOTS-14567cDOTS-145678cDOTS-14568cDOTS-1457
cDOTS-14578cDOTS-1458cDOTS-146cDOTS-1467cDOTS-14678cDOTS-1468cDOTS-147cDOTS-1478cDOTS-148cDOTS-15
cDOTS-156cDOTS-1567cDOTS-15678cDOTS-1568cDOTS-157cDOTS-1578cDOTS-158cDOTS-16cDOTS-167cDOTS-1678
cDOTS-168cDOTS-17cDOTS-178cDOTS-18cDOTS-2cDOTS-23cDOTS-234cDOTS-2345cDOTS-23456cDOTS-234567
cDOTS-2345678cDOTS-234568cDOTS-23457cDOTS-234578cDOTS-23458cDOTS-2346cDOTS-23467cDOTS-234678
cDOTS-23468cDOTS-2347cDOTS-23478cDOTS-2348cDOTS-235cDOTS-2356cDOTS-23567cDOTS-235678cDOTS-23568
cDOTS-2357cDOTS-23578cDOTS-2358cDOTS-236cDOTS-2367cDOTS-23678cDOTS-2368cDOTS-237cDOTS-2378
cDOTS-238cDOTS-24cDOTS-245cDOTS-2456cDOTS-24567cDOTS-245678cDOTS-24568cDOTS-2457cDOTS-24578
cDOTS-2458cDOTS-246cDOTS-2467cDOTS-24678cDOTS-2468cDOTS-247cDOTS-2478cDOTS-248cDOTS-25cDOTS-256
cDOTS-2567cDOTS-25678cDOTS-2568cDOTS-257cDOTS-2578cDOTS-258cDOTS-26cDOTS-267cDOTS-2678cDOTS-268
cDOTS-27cDOTS-278cDOTS-28cDOTS-3cDOTS-34cDOTS-345cDOTS-3456cDOTS-34567cDOTS-345678cDOTS-34568
cDOTS-3457cDOTS-34578cDOTS-3458cDOTS-346cDOTS-3467cDOTS-34678cDOTS-3468cDOTS-347cDOTS-3478
cDOTS-348cDOTS-35cDOTS-356cDOTS-3567cDOTS-35678cDOTS-3568cDOTS-357cDOTS-3578cDOTS-358cDOTS-36
cDOTS-367cDOTS-3678cDOTS-368cDOTS-37cDOTS-378cDOTS-38cDOTS-4cDOTS-45cDOTS-456cDOTS-4567cDOTS-45678
cDOTS-4568cDOTS-457cDOTS-4578cDOTS-458cDOTS-46cDOTS-467cDOTS-4678cDOTS-468cDOTS-47cDOTS-478
cDOTS-48cDOTS-5cDOTS-56cDOTS-567cDOTS-5678cDOTS-568cDOTS-57cDOTS-578cDOTS-58cDOTS-6cDOTS-67
cDOTS-678cDOTS-68cDOTS-7cDOTS-78cDOTS-8aBRAINaBREADaBREAK PERMITTED HEREaBREAST-FEEDINGaBREVE
aBRICKaBRIDE WITH VEILaBRIDGE AT NIGHTaBRIEFCASEaBRIEFSaBROCCOLIaBROKEN BAR
bCIRCLE WITH NORTHWEST ARROWbHEARTaBROOMaBROWN HEARTaBSaBUBBLE TEAaBUBBLESaBUCKETaBUG
aBUGINESE END OF SECTIONbLETTER AcBAcCAcDAcGAcHAcJAcKAcLAcMAcMPAcNAcNGAcNGKAcNRAcNYAcNYCAcPAcRAcSA
cTAcVAcYAbPALLAWAbVOWEL SIGN AEdEdIdOdUaBUHID LETTER AcBAcDAcGAcHAcIcKAcLAcMAcNAcNGAcPAcRAcSAcTAcU
cWAcYAbVOWEL SIGN IdUaBUILDING CONSTRUCTIONaBULLETbOPERATORaBULLHORNbWITH SOUND WAVESaBULLSEYE
aBURRITOaBUSbSTOPaBUST IN SILHOUETTEaBUSTS IN SILHOUETTEaBUTTERaBUTTERFLYaBYTE ORDER MARK
aBYZANTINE MUSICAL SYMBOL AGOGI ARGIeARGOTERIeGORGIeGORGOTERIeMESIeMETRIAePOLI ARGIfGORGI
dANATRICHISMAdANTIKENOKYLISMAdANTIKENOMAdAPESO EKFONITIKONeEXO NEOdAPLIdAPODERMA ARCHAIONeNEO
dAPOSTROFOI SYNDESMOS NEOeTELOUS ICHIMATOSdAPOSTROFOSeDIPLIeNEOdAPOTHEMAdARGONdARGOSYNTHETON
dARKTIKO DIeGAeKEeNIePAeVOUeZOdCHAMILIdCHAMILONdCHOREVMA ARCHAIONeNEOdCHROA KLITONeSPATHIeZYGOS
dDASEIAdDIARGONdDIASTOLI APLI MEGALIfMIKRIeDIPLIeTHESEOSdDIESIS APLI DYO DODEKATA
eDIGRAMMOS EX DODEKATAeMONOGRAMMOS TESSERA DODEKATAeTETARTIMORIONeTRIGRAMMOS OKTO DODEKATA
eTRITIMORIONdDIFTOGGOS OUdDIGORGONePARESTIGMENON ARISTERA ANOgKATOfDEXIAdDIGRAMMA GGdDIPLI
eARCHAIONdDYOdEKSTREPTONdELAFRONdENARXIS KAI FTHORA VOUdENDOFONONdEPEGERMAdETERON ARGOSYNTHETON
ePARAKALESMAdEXO EKFONITIKONdFANEROSIS DIFONIASeMONOFONIASeTETRAFONIASdFHTORA SKLIRON CHROMA VASIS
dFTHORA ARCHAIONfDEYTEROU ICHOUeDIATONIKI DIfKEfNANAfNI ANOgKATOfPAfZOeENARMONIOS ANTIFONIA
eI YFESIS TETARTIMORIONeMALAKON CHROMA DIFONIASgMONOFONIASeNAOS ICHOSeNENANOeSKLIRON CHROMA SYNAFI
gVASISfDIATONON DIdGENIKI DIESISeYFESISdGORGON ARCHAIONeNEO ANOfKATOePARESTIGMENON ARISTERAfDEXIA
dGORGOSYNTHETONdGORTHMIKON N APLOUNfDIPLOUNdGRONTHISMATAdICHADINdIMIDIARGONdIMIFONONdIMIFTHORA
dIMIFTHORONdISAKIA TELOUS ICHIMATOSdISON ARCHAIONeNEOdKATAVA TROMIKONdKATAVASMAdKATHISTI
dKENTIMA ARCHAIONeNEO ANOfKATOfMESOdKENTIMATAeARCHAIONeNEO ANOfKATOfMESOdKLASMAeANOeKATOdKONTEVMA
eALLOdKORONISdKOUFISMAdKRATIMA ALLOeARCHAIONeNEOdKRATIMATAdKRATIMOKOUFISMAdKRATIMOYPORROON
dKREMASTIdKYLISMAdLEIMMA DYO CHRONONeENOS CHRONOUeIMISEOS CHRONOUeTESSARON CHRONONeTRION CHRONON
dLEMOIdLYGISMAdMARTYRIA ALLI DEYTEROS ICHOSfPROTOS ICHOSeDEYTEROS ICHOSeLEGETOS ICHOS
ePLAGIOS ICHOSfTETARTOS ICHOSePROTOS ICHOSePROTOVARYS ICHOSeTETARTOS ICHOSfLEGETOS ICHOSeTRIFONIAS
eTRITOS ICHOSeVARYS ICHOSdMIKRON ISONdNANAdOLIGON ARCHAIONeNEOdOMALONdOXEIA DIPLIeEKFONITIKONeNEO
dOXEIAI ARCHAIONdOYRANISMA ARCHAIONeNEOdPARAKALESMA ARCHAIONeNEOdPARAKLITIKIeARCHAIONeNEOdPARICHON
dPELASTONeNEOdPERISPOMENIdPETASMAdPETASTIdPETASTOKOUFISMAdPIASMA ARCHAIONeNEOdPSIFISTOLYGISMA
dPSIFISTONeNEOdPSIFISTOPARAKALESMAdPSIFISTOSYNAGMAdPSILIdPSILONdRAPISMAdREVMAdSAXIMATAdSEISMAeNEO
dSIMANSIS ARSEOSfDISIMOUfTETRASIMOUfTRISIMOUeTHESEOSfDISIMOUfTETRASIMOUfTRISIMOUdSTAVROSeAPODEXIA
dSTIGMAdSTRAGGISMATAdSYNAGMA ARCHAIONeMETA STAVROUeNEOdSYNEVMAdSYRMAdSYRMATIKIdTELEIAdTESSERA
dTETRAPLIdTHEMAeAPLOUNdTHEMATISMOS ESOeEXOdTHES KAI APOTHESdTHITAdTINAGMAdTRIAdTRIGORGONdTRIPLI
dTROMIKOLYGISMAdTROMIKON ALLOeARCHAIONeNEOdTROMIKOPARAKALESMAdTROMIKOPSIFISTONdTROMIKOSYNAGMA
dVAREIA DIPLIeEKFONITIKONeNEOdVAREIAI ARCHAIONdVATHYdXIRON KLASMAdYFEN ANOeKATO
dYFESIS APLI DYO DODEKATAeDIGRAMMOS EX DODEKATAeMONOGRAMMOS TESSERA DODEKATA
eTRIGRAMMOS OKTO DODEKATAeTRITIMORIONdYPOKRISISeDIPLIdYPORROIdYPSILIaCACTUSaCADA UNAaCADUCEUS
aCALENDARaCALL ME HANDaCAMERAbWITH FLASHaCAMPINGaCANaCANADIAN SYLLABICS AcAAcAAIcAAYcAIcAIVILIK B
cANcATHAPASCAN MdScAYcBEAVER DENE LeRcBIBLE-CREE YcBLACKFOOT AdEdIdKAdKEdKIdKOdNAdNEdNIdNOdOdSdW
dWAdWEdWIdWOcCcCAcCAAcCAAIcCARRIER CHAdCHEdCHEEdCHIdCHOdCHUdDEEdDENE GEEdDENTAL SdDIdDLAdDLEdDLEE
dDLIdDLOdDLUdDZAdDZEdDZEEdDZIdDZOdDZUdEEdGAdGAAdGEdGEEdGHAdGHEdGHEEdGHIdGHOdGHUdGIdGOdGUdGWAdGWUdH
dHEEdHIdHWAdHWEdHWEEdHWIdHWOdHWUdIdINITIAL ZdJAdJEdJEEdJIdJJAdJJEdJJEEdJJIdJJOdJJUdJOdJUdJWAdKHA
dKHEdKHEEdKHIdKHOdKHUdKKdKKAdKKEdKKEEdKKIdKKOdKKUdLAdLEdLEEdLHAdLHEdLHEEdLHIdLHOdLHUdLIdLOdLUdMA
dMEdMEEdMIdMOdMUdNAdNEdNEEdNGdNIdNOdNUdPdPAdPEdPEEdPIdPOdPUdRAdREdREEdRIdROdRUdSAdSEdSEEdSHdSHA
dSHEdSHEEdSHIdSHOdSHUdSIdSOdSUdTHAdTHEdTHEEdTHIdTHOdTHUdTLAdTLEdTLEEdTLHAdTLHEdTLHEEdTLHIdTLHO
dTLHUdTLIdTLOdTLUdTSAdTSEdTSEEdTSIdTSOdTSUdTTAdTTEdTTEEdTTIdTTOdTTSAdTTSEdTTSEEdTTSIdTTSOdTTSUdTTU
dWAdWEdWEEdWIdWOdWUdYAdYEdYEEdYIdYOdYUdZdZAdZEdZEEdZIdZOdZUcCEcCHI SIGNcCIcCIIcCOcCOOcCWAcCWAAcCWE
cCWIcCWIIcCWOcCWOOcEcEASTERN WcENcFcFAcFAAcFAAIcFEcFIcFIIcFINAL ACUTEdBOTTOM HALF RING
dDOUBLE ACUTEeSHORT VERTICAL STROKESdDOWN TACKdGRAVEdMIDDLE DOTdPLUSdRAISED DOTdRIGHT HALF RING
dRINGdSHORT HORIZONTAL STROKEdSMALL RINGdTOP HALF RINGcFOcFOOcFULL STOPcFWAAcGLOTTAL STOPcHK
cHYPHENcIcIIcINcKcKAcKAAcKAAIcKAYcKEcKIcKIIcKOcKOOcKWcKWAcKWAAcKWAYcKWEcKWIcKWIIcKWOcKWOOcLcLAcLAA
cLAAIcLAYcLEcLHcLHAcLHAAcLHIcLHIIcLHOcLHOOcLIcLIIcLOcLOOcLWAcLWAAcLWEcLWIcLWIIcLWOcLWOOcMcMAcMAA
cMAAIcMAYcMEcMEDIAL LdRcMHcMIcMIIcMOcMOOcMOOSE-CREE SKcMWAcMWAAcMWEcMWIcMWIIcMWOcMWOOcNcN-CREE THE
dTHIdTHIIcNAcNAAcNAAIcNASKAPI CWAAdKWAAdMWAAdNWAAdS-WdSCWAdSKWdSKWAdSPWAdSTWAdSWAAdTWAAdWAAdWOO
dYWAAcNATTILIK HAdHAAdHIdHIIdHOdHOOdSHRAdSHRAAdSHRIdSHRIIdSHROdSHROOcNAYcNEcNGcNGAcNGAAcNGAAIcNGAI
cNGIcNGIIcNGOcNGOOcNHcNIcNIIcNNGcNNGAcNNGAAcNNGIcNNGIIcNNGOcNNGOOcNOcNOOcNOYcNUNAVIK HdHAdHAAdHE
dHIdHIIdHOdHOOcNUNAVUT HcNWAcNWAAcNWEcNWIcNWIIcNWOcNWOOcOcOJIBWAY CdKdMdNdNWIdNWIIdNWOdNWOOdPdSdSH
dTcONcOOcOYcPcPAcPAAcPAAIcPAYcPEcPIcPIIcPOcPOOcPOYcPWAcPWAAcPWEcPWIcPWIIcPWOcPWOOcPWOYcQcQAcQAA
cQAAIcQAIcQIcQIIcQOcQOOcRcR-CREE REdRWEcRAcRAAcRAAIcRAYcREcRIcRIIcROcROOcRWAcRWAAcRWEEcRWIcRWII
cRWOcRWOOcScSAcSAAcSAAIcSAYcSAYISI HAdHEdHIdHOdHOOdJIdJUdJUUdMdSHAdSHEdSHIdSHOdSHOOdSHWEdTHdYIcSE
cSHcSHAcSHAAcSHAYcSHEcSHIcSHIIcSHOcSHOOcSHOYcSHWAcSHWAAcSHWEcSHWIcSHWIIcSHWOcSHWOOcSHWOYcSIcSIIcSO
cSOOcSOUTH-SLAVEY KAHdKEHdKIHdKOHcSOYcSPAcSPEcSPIcSPOcSWcSWAcSWAAcSWEcSWIcSWIIcSWOcSWOOcTcTAcTAA
cTAAIcTAYcTEcTHcTH-CREE THdTHAdTHAAdTHEdTHIdTHIIdTHOdTHOOcTHAcTHAAcTHEcTHIcTHIIcTHOcTHOOcTHWA
cTHWAAcTHWEcTIcTIIcTLHAcTLHEcTLHIcTLHOcTLHOOcTLHWEcTOcTOOcTTAcTTEcTTHcTTHAcTTHAAcTTHEcTTHIcTTHO
cTTHOOcTTHWEcTTIcTTOcTWAcTWAAcTWEcTWIcTWIIcTWOcTWOOcTYAcTYEcTYIcTYOcWAcWAAcWAYcWEcWEST-CREE CWA
dCWAAdCWEdCWIdCWIIdCWOdCWOOdFWAAdKWAdKWAAdKWEdKWIdKWIIdKWOdKWOOdLdLAdLAAdLEdLOdLOOdLWAdLWAAdLWE
dLWIdLWIIdLWOdLWOOdMdMWAdMWAAdMWEdMWIdMWIIdMWOdMWOOdNWAdNWAAdNWEdPdPWAdPWAAdPWEdPWIdPWIIdPWOdPWOO
dRdRAdREdRIdROdRWAAdSHWAdSHWAAdSHWEdSHWIdSHWIIdSHWOdSHWOOdSWAdSWAAdSWEdSWIdSWIIdSWOdSWOOdTHWAAdTWA
dTWAAdTWEdTWIdTWIIdTWOdTWOOdWAdWAAdWEdWIdWIIdWOdWOOdYdYWAdYWAAdYWEdYWIdYWIIdYWOdYWOOcWESTERN WcWI
cWIIcWOcWOOcWOODS-CREE FINAL THdTHdTHAdTHEdTHIdTHOdTHWAdTHWAAdTHWEEdTHWIdTHWIIdTHWOdTHWOOcY
cY-CREE COOdKOOdLOOdMOOdNOOdOOdPOOdPWAAdSOOdTOOdWdYOOcYAcYAAcYAAIcYAYcYEcYIcYIIcYOcYOOcYOYcYWA
cYWAAcYWEcYWIcYWIIcYWOcYWOOaCANCELbCHARACTERbTAGaCANCELLATION XaCANCERaCANDLEaCANDYaCANNED FOOD
aCANOEaCAPITULUMaCAPRICORNaCAR SLIDINGaCARD FILE BOXbINDEXcDIVIDERSaCARE OFaCARETbINSERTION POINT
aCARIAN LETTER AcA2cBcC-18cC-39cDcD2cEcE2cGcG2cIcIIcKcK2cLcLDcLD2cMcMBcMB2cMB3cMB4cNcNDcNGcNNcOcP
cP2cQcRcRRcScSHcSH2cSScSTcST2cTcTTcTT2cUcUUcUUUcUUU2cUUU3cUUUUcXaCARONaCAROUSEL HORSE
aCARP STREAMERaCARPENTRY SAWaCARRIAGE RETURNaCARROTaCASTLEaCATbFACEcWITH TEARS OF JOYdWRY SMILE
aCAUCASIAN ALBANIAN CITATION MARKcLETTER ALTdAORdBETdCARdCAYNdCHAdCHATdCHIdCHOYdCYAWdCYAYdDATdDYAN
dDZAYdDZYAYdEBdEYNdFAMdGHEYSdGIMdHEYTdINYAdIRBdIWNdJAYNdJHOXdKARdKIWdLANdLYITdMAQdNOWCdONdPENdPIWR
dQARdQAYdRATdSEYKdSHAdSHAKdSHOYdTASdTIWRdTYAYdVEYZdXEYNdYAYDdYOWDdZARLdZHAdZHILaCAUTION SIGNaCCH
aCEDI SIGNaCEDILLAaCELTIC CROSSaCENT SIGNaCENTRE LINE SYMBOLaCENTRELINE LOW LINEbOVERLINEaCERES
aCGJaCHAINSaCHAIRaCHAKMA AU MARKbDANDAbDIGIT EIGHTcFIVEcFOURcNINEcONEcSEVENcSIXcTHREEcTWOcZERO
bDOUBLE DANDAbLETTER AAcBAAcBHAAcCAAcCHAAcDAAcDDAAcDDHAAcDHAAcEcGAAcGHAAcHAAcIcJAAcJHAAcKAAcKHAA
cLAAcLHAAcMAAcNAAcNGAAcNNAAcNYAAcPAAcPHAAcRAAcSAAcTAAcTHAAcTTAAcTTHAAcUcVAAcWAAcYAAcYYAAbMAAYYAA
bO MARKbQUESTION MARKbSECTION MARKbSIGN ANUSVARAcCANDRABINDUcVISARGAbVIRAMAbVOWEL SIGN AdAAdAIdAU
dEdEIdIdIIdOdOIdUdUUaCHAM CONSONANT SIGN FINAL HeMeNGdLAdRAdWAdYAbDIGIT EIGHTcFIVEcFOURcNINEcONE
cSEVENcSIXcTHREEcTWOcZERObLETTER AcAIcBAcBBAcBHAcCHAcCHHAcDAcDDAcDHAcEcFINAL CHdGdKdLdNdNGdPdRdSS
dTdYcGAcGHAcHAcIcJAcJHAcKAcKHAcLAcMAcMUEcNAcNGAcNGUEcNHAcNHJAcNHUEcNUEcOcPAcPHAcPPAcRAcSAcSSAcTA
cTHAcUcVAcYAbPUNCTUATION DANDAcDOUBLE DANDAcSPIRALcTRIPLE DANDAbVOWEL SIGN AAdAIdAUdEIdIdIIdOdOEdU
dUEaCHARACTER TABULATIONcSETcWITH JUSTIFICATIONbTIEaCHART WITH DOWNWARDS TRENDcUPWARDS TREND
eAND YEN SIGNaCHECK MARKaCHECKER BOARDcFILLaCHEERING MEGAPHONEaCHEESE WEDGEaCHEQUERED FLAG
aCHEROKEE LETTER AcDAcDEcDIcDLAcDOcDUcDVcEcGAcGEcGIcGOcGUcGVcHAcHEcHIcHNAcHOcHUcHVcIcKAcLAcLEcLI
cLOcLUcLVcMAcMEcMIcMOcMUcMVcNAcNAHcNEcNIcNOcNUcNVcOcQUAcQUEcQUIcQUOcQUUcQUVcScSAcSEcSIcSOcSUcSVcTA
cTEcTIcTLAcTLEcTLIcTLOcTLUcTLVcTSAcTSEcTSIcTSOcTSUcTSVcUcVcWAcWEcWIcWOcWUcWVcYAcYEcYIcYOcYUcYV
bSMALL LETTER AdDAdDEdDIdDLAdDOdDUdDVdEdGAdGEdGIdGOdGUdGVdHAdHEdHIdHNAdHOdHUdHVdIdKAdLAdLEdLIdLO
dLUdLVdMAdMEdMIdMOdMUdMVdNAdNAHdNEdNIdNOdNUdNVdOdQUAdQUEdQUIdQUOdQUUdQUVdSdSAdSEdSIdSOdSUdSVdTAdTE
dTIdTLAdTLEdTLIdTLOdTLUdTLVdTSAdTSEdTSIdTSOdTSUdTSVdUdVdWAdWEdWIdWOdWUdWVdYAdYEdYIdYOdYUdYV
aCHERRIESaCHERRY BLOSSOMaCHESTNUTaCHI RHOaCHICKENaCHILDaCHILDREN CROSSINGaCHIPMUNKaCHIRON
aCHOCOLATE BARaCHOPSTICKSaCHORASMIAN LETTER ALEPHcAYINcBETHcCURLED WAWcDALETHcGIMELcHEcHETHcKAPH
cLAMEDHcMEMcNUNcPEcRESHcSAMEKHcSHINcSMALL ALEPHcTAWcWAWcYODHcZAYINbNUMBER FOURcONEdHUNDREDcTEN
cTHREEcTWENTYcTWOaCHRISTMAS TREEaCHURCHaCINEMA
aCIRCLE DIVIDED BY HORIZONTAL BAR AND TOP HALF DIVIDED BY VERTICAL BAR
bWITH ALL BUT UPPER LEFT QUADRANT BLACKcHORIZONTAL BARcLEFT HALF BLACKcLOWER HALF BLACK
cRIGHT HALF BLACKcSMALL CIRCLE TO THE RIGHTcSUPERIMPOSED XcTWO HORIZONTAL STROKES TO THE RIGHT
cUPPER HALF BLACKdRIGHT QUADRANT BLACKcVERTICAL FILLaCIRCLED ANTICLOCKWISE ARROW
bANTICLOCKWISE-ROTATED DIVISION SIGNbASTERISK OPERATORbBOLD XbBULLETbC WITH OVERLAID BACKSLASHbCC
bCDbCROSS FORMEEdWITH FOUR DOTSeTWO DOTScPOMMEEbCROSSING LANESbDASHbDIGIT EIGHTcFIVEcFOURcNINEcONE
cSEVENcSIXcTHREEcTWOcZERObDIVISION SIGNcSLASHbDOLLAR SIGN WITH OVERLAID BACKSLASHbDOT OPERATOR
bEQUALSbGREATER-THANbHANGUL CHIEUCHdAcCIEUCdAcHIEUHdAcIEUNGdAdUcKHIEUKHdAcKIYEOKdAcMIEUMdAcNIEUNdA
cPHIEUPHdAcPIEUPdAcRIEULdAcSIOSdAcTHIEUTHdAcTIKEUTdAbHEAVY WHITE RIGHTWARDS ARROW
bHORIZONTAL BAR WITH NOTCHbHUMAN FIGUREbIDEOGRAPH ACCEPTcADVANTAGEcALLIANCEcATTENTIONcCENTRE
cCONGRATULATIONcCOPYcCORRECTcEARTHcEIGHTcENTERPRISEcEXCELLENTcFEMALEcFINANCIALcFIREcFIVEcFOURcHAVE
cHIGHcITEMcKINDERGARTENcKOTOcLABORcLEFTcLOWcMALEcMEDICINEcMETALcMOONcNAMEcNIGHTcNINEcONEcPRINT
cQUESTIONcRELIGIONcRESOURCEcRESTcRIGHTcSCHOOLcSECRETcSEVENcSIXcSOCIETYcSPECIALcSTOCKcSTUDY
cSUITABLEcSUNcSUPERVISEcTENcTHREEcTWOcWATERcWOODbINFORMATION SOURCEbITALIC LATIN CAPITAL LETTER C
fRbKATAKANA AcEcHAcHEcHIcHOcHUcIcKAcKEcKIcKOcKUcMAcMEcMIcMOcMUcNAcNEcNIcNOcNUcOcRAcREcRIcROcRUcSA
cSEcSIcSOcSUcTAcTEcTIcTOcTUcUcWAcWEcWIcWOcYAcYOcYUbKOREAN CHARACTER CHAMKOdJUEUI
bLATIN CAPITAL LETTER AeBeCeDeEeFeGeHeIeJeKeLeMeNeOePeQeReSeTeUeVeWeXeYeZcSMALL LETTER AeBeCeDeEeF
eGeHeIeJeKeLeMeNeOePeQeReSeTeUeVeWeXeYeZbLESS-THANbMINUS
bMULTIPLICATION SIGN WITH CIRCUMFLEX ACCENTbNUMBER EIGHTEENcEIGHTY ON BLACK SQUAREcELEVENcFIFTEEN
cFIFTYdON BLACK SQUAREcFORTYdEIGHTdFIVEdFOURdNINEdON BLACK SQUAREdONEdSEVENdSIXdTHREEdTWOcFOURTEEN
cNINETEENcSEVENTEENcSEVENTY ON BLACK SQUAREcSIXTEENcSIXTY ON BLACK SQUAREcTENdON BLACK SQUARE
cTHIRTEENcTHIRTYdEIGHTdFIVEdFOURdNINEdON BLACK SQUAREdONEdSEVENdSIXdTHREEdTWOcTWELVEcTWENTYdEIGHT
dFIVEdFOURdNINEdON BLACK SQUAREdONEdSEVENdSIXdTHREEdTWObOPEN CENTRE EIGHT POINTED STARbPARALLEL
bPERPENDICULARbPLUSbPOSTAL MARKbREVERSE SOLIDUSbRING OPERATORbSQUAREbTIMESbTRIANGLEcDOWN
bVERTICAL BARbWHITE BULLETcSTARbWZbXbZERO WITH SLASHaCIRCULATION FUNCTIONaCIRCUMFLEX ACCENT
aCIRCUS TENTaCITYSCAPEbAT DUSKaCJK COMPATIBILITY IDEOGRAPH-2F800cIDEOGRAPH-2F801cIDEOGRAPH-2F802
cIDEOGRAPH-2F803cIDEOGRAPH-2F804cIDEOGRAPH-2F805cIDEOGRAPH-2F806cIDEOGRAPH-2F807cIDEOGRAPH-2F808
cIDEOGRAPH-2F809cIDEOGRAPH-2F80AcIDEOGRAPH-2F80BcIDEOGRAPH-2F80CcIDEOGRAPH-2F80DcIDEOGRAPH-2F80E
cIDEOGRAPH-2F80FcIDEOGRAPH-2F810cIDEOGRAPH-2F811cIDEOGRAPH-2F812cIDEOGRAPH-2F813cIDEOGRAPH-2F814
cIDEOGRAPH-2F815cIDEOGRAPH-2F816cIDEOGRAPH-2F817cIDEOGRAPH-2F818cIDEOGRAPH-2F819cIDEOGRAPH-2F81A
cIDEOGRAPH-2F81BcIDEOGRAPH-2F81CcIDEOGRAPH-2F81DcIDEOGRAPH-2F81EcIDEOGRAPH-2F81FcIDEOGRAPH-2F820
cIDEOGRAPH-2F821cIDEOGRAPH-2F822cIDEOGRAPH-2F823cIDEOGRAPH-2F824cIDEOGRAPH-2F825cIDEOGRAPH-2F826
cIDEOGRAPH-2F827cIDEOGRAPH-2F828cIDEOGRAPH-2F829cIDEOGRAPH-2F82AcIDEOGRAPH-2F82BcIDEOGRAPH-2F82C
cIDEOGRAPH-2F82DcIDEOGRAPH-2F82EcIDEOGRAPH-2F82FcIDEOGRAPH-2F830cIDEOGRAPH-2F831cIDEOGRAPH-2F832
cIDEOGRAPH-2F833cIDEOGRAPH-2F834cIDEOGRAPH-2F835cIDEOGRAPH-2F836cIDEOGRAPH-2F837cIDEOGRAPH-2F838
cIDEOGRAPH-2F839cIDEOGRAPH-2F83AcIDEOGRAPH-2F83BcIDEOGRAPH-2F83CcIDEOGRAPH-2F83DcIDEOGRAPH-2F83E
cIDEOGRAPH-2F83FcIDEOGRAPH-2F840cIDEOGRAPH-2F841cIDEOGRAPH-2F842cIDEOGRAPH-2F843cIDEOGRAPH-2F844
cIDEOGRAPH-2F845cIDEOGRAPH-2F846cIDEOGRAPH-2F847cIDEOGRAPH-2F848cIDEOGRAPH-2F849cIDEOGRAPH-2F84A
cIDEOGRAPH-2F84BcIDEOGRAPH-2F84CcIDEOGRAPH-2F84DcIDEOGRAPH-2F84EcIDEOGRAPH-2F84FcIDEOGRAPH-2F850
cIDEOGRAPH-2F851cIDEOGRAPH-2F852cIDEOGRAPH-2F853cIDEOGRAPH-2F854cIDEOGRAPH-2F855cIDEOGRAPH-2F856
cIDEOGRAPH-2F857cIDEOGRAPH-2F858cIDEOGRAPH-2F859cIDEOGRAPH-2F85AcIDEOGRAPH-2F85BcIDEOGRAPH-2F85C
cIDEOGRAPH-2F85DcIDEOGRAPH-2F85EcIDEOGRAPH-2F85FcIDEOGRAPH-2F860cIDEOGRAPH-2F861cIDEOGRAPH-2F862
cIDEOGRAPH-2F863cIDEOGRAPH-2F864cIDEOGRAPH-2F865cIDEOGRAPH-2F866cIDEOGRAPH-2F867cIDEOGRAPH-2F868
cIDEOGRAPH-2F869cIDEOGRAPH-2F86AcIDEOGRAPH-2F86BcIDEOGRAPH-2F86CcIDEOGRAPH-2F86DcIDEOGRAPH-2F86E
cIDEOGRAPH-2F86FcIDEOGRAPH-2F870cIDEOGRAPH-2F871cIDEOGRAPH-2F872cIDEOGRAPH-2F873cIDEOGRAPH-2F874
cIDEOGRAPH-2F875cIDEOGRAPH-2F876cIDEOGRAPH-2F877cIDEOGRAPH-2F878cIDEOGRAPH-2F879cIDEOGRAPH-2F87A
cIDEOGRAPH-2F87BcIDEOGRAPH-2F87CcIDEOGRAPH-2F87DcIDEOGRAPH-2F87EcIDEOGRAPH-2F87FcIDEOGRAPH-2F880
cIDEOGRAPH-2F881cIDEOGRAPH-2F882cIDEOGRAPH-2F883cIDEOGRAPH-2F884cIDEOGRAPH-2F885cIDEOGRAPH-2F886
cIDEOGRAPH-2F887cIDEOGRAPH-2F888cIDEOGRAPH-2F889cIDEOGRAPH-2F88AcIDEOGRAPH-2F88BcIDEOGRAPH-2F88C
cIDEOGRAPH-2F88DcIDEOGRAPH-2F88EcIDEOGRAPH-2F88FcIDEOGRAPH-2F890cIDEOGRAPH-2F891cIDEOGRAPH-2F892
cIDEOGRAPH-2F893cIDEOGRAPH-2F894cIDEOGRAPH-2F895cIDEOGRAPH-2F896cIDEOGRAPH-2F897cIDEOGRAPH-2F898
cIDEOGRAPH-2F899cIDEOGRAPH-2F89AcIDEOGRAPH-2F89BcIDEOGRAPH-2F89CcIDEOGRAPH-2F89DcIDEOGRAPH-2F89E
cIDEOGRAPH-2F89FcIDEOGRAPH-2F8A0cIDEOGRAPH-2F8A1cIDEOGRAPH-2F8A2cIDEOGRAPH-2F8A3cIDEOGRAPH-2F8A4
cIDEOGRAPH-2F8A5cIDEOGRAPH-2F8A6cIDEOGRAPH-2F8A7cIDEOGRAPH-2F8A8cIDEOGRAPH-2F8A9cIDEOGRAPH-2F8AA
cIDEOGRAPH-2F8ABcIDEOGRAPH-2F8ACcIDEOGRAPH-2F8ADcIDEOGRAPH-2F8AEcIDEOGRAPH-2F8AFcIDEOGRAPH-2F8B0
cIDEOGRAPH-2F8B1cIDEOGRAPH-2F8B2cIDEOGRAPH-2F8B3cIDEOGRAPH-2F8B4cIDEOGRAPH-2F8B5cIDEOGRAPH-2F8B6
cIDEOGRAPH-2F8B7cIDEOGRAPH-2F8B8cIDEOGRAPH-2F8B9cIDEOGRAPH-2F8BAcIDEOGRAPH-2F8BBcIDEOGRAPH-2F8BC
cIDEOGRAPH-2F8BDcIDEOGRAPH-2F8BEcIDEOGRAPH-2F8BFcIDEOGRAPH-2F8C0cIDEOGRAPH-2F8C1cIDEOGRAPH-2F8C2
cIDEOGRAPH-2F8C3cIDEOGRAPH-2F8C4cIDEOGRAPH-2F8C5cIDEOGRAPH-2F8C6cIDEOGRAPH-2F8C7cIDEOGRAPH-2F8C8
cIDEOGRAPH-2F8C9cIDEOGRAPH-2F8CAcIDEOGRAPH-2F8CBcIDEOGRAPH-2F8CCcIDEOGRAPH-2F8CDcIDEOGRAPH-2F8CE
cIDEOGRAPH-2F8CFcIDEOGRAPH-2F8D0cIDEOGRAPH-2F8D1cIDEOGRAPH-2F8D2cIDEOGRAPH-2F8D3cIDEOGRAPH-2F8D4
cIDEOGRAPH-2F8D5cIDEOGRAPH-2F8D6cIDEOGRAPH-2F8D7cIDEOGRAPH-2F8D8cIDEOGRAPH-2F8D9cIDEOGRAPH-2F8DA
cIDEOGRAPH-2F8DBcIDEOGRAPH-2F8DCcIDEOGRAPH-2F8DDcIDEOGRAPH-2F8DEcIDEOGRAPH-2F8DFcIDEOGRAPH-2F8E0
cIDEOGRAPH-2F8E1cIDEOGRAPH-2F8E2cIDEOGRAPH-2F8E3cIDEOGRAPH-2F8E4cIDEOGRAPH-2F8E5cIDEOGRAPH-2F8E6
cIDEOGRAPH-2F8E7cIDEOGRAPH-2F8E8cIDEOGRAPH-2F8E9cIDEOGRAPH-2F8EAcIDEOGRAPH-2F8EBcIDEOGRAPH-2F8EC
cIDEOGRAPH-2F8EDcIDEOGRAPH-2F8EEcIDEOGRAPH-2F8EFcIDEOGRAPH-2F8F0cIDEOGRAPH-2F8F1cIDEOGRAPH-2F8F2
cIDEOGRAPH-2F8F3cIDEOGRAPH-2F8F4cIDEOGRAPH-2F8F5cIDEOGRAPH-2F8F6cIDEOGRAPH-2F8F7cIDEOGRAPH-2F8F8
cIDEOGRAPH-2F8F9cIDEOGRAPH-2F8FAcIDEOGRAPH-2F8FBcIDEOGRAPH-2F8FCcIDEOGRAPH-2F8FDcIDEOGRAPH-2F8FE
cIDEOGRAPH-2F8FFcIDEOGRAPH-2F900cIDEOGRAPH-2F901cIDEOGRAPH-2F902cIDEOGRAPH-2F903cIDEOGRAPH-2F904
cIDEOGRAPH-2F905cIDEOGRAPH-2F906cIDEOGRAPH-2F907cIDEOGRAPH-2F908cIDEOGRAPH-2F909cIDEOGRAPH-2F90A
cIDEOGRAPH-2F90BcIDEOGRAPH-2F90CcIDEOGRAPH-2F90DcIDEOGRAPH-2F90EcIDEOGRAPH-2F90FcIDEOGRAPH-2F910
cIDEOGRAPH-2F911cIDEOGRAPH-2F912cIDEOGRAPH-2F913cIDEOGRAPH-2F914cIDEOGRAPH-2F915cIDEOGRAPH-2F916
cIDEOGRAPH-2F917cIDEOGRAPH-2F918cIDEOGRAPH-2F919cIDEOGRAPH-2F91AcIDEOGRAPH-2F91BcIDEOGRAPH-2F91C
cIDEOGRAPH-2F91DcIDEOGRAPH-2F91EcIDEOGRAPH-2F91FcIDEOGRAPH-2F920cIDEOGRAPH-2F921cIDEOGRAPH-2F922
cIDEOGRAPH-2F923cIDEOGRAPH-2F924cIDEOGRAPH-2F925cIDEOGRAPH-2F926cIDEOGRAPH-2F927cIDEOGRAPH-2F928
cIDEOGRAPH-2F929cIDEOGRAPH-2F92AcIDEOGRAPH-2F92BcIDEOGRAPH-2F92CcIDEOGRAPH-2F92DcIDEOGRAPH-2F92E
cIDEOGRAPH-2F92FcIDEOGRAPH-2F930cIDEOGRAPH-2F931cIDEOGRAPH-2F932cIDEOGRAPH-2F933cIDEOGRAPH-2F934
cIDEOGRAPH-2F935cIDEOGRAPH-2F936cIDEOGRAPH-2F937cIDEOGRAPH-2F938cIDEOGRAPH-2F939cIDEOGRAPH-2F93A
cIDEOGRAPH-2F93BcIDEOGRAPH-2F93CcIDEOGRAPH-2F93DcIDEOGRAPH-2F93EcIDEOGRAPH-2F93FcIDEOGRAPH-2F940
cIDEOGRAPH-2F941cIDEOGRAPH-2F942cIDEOGRAPH-2F943cIDEOGRAPH-2F944cIDEOGRAPH-2F945cIDEOGRAPH-2F946
cIDEOGRAPH-2F947cIDEOGRAPH-2F948cIDEOGRAPH-2F949cIDEOGRAPH-2F94AcIDEOGRAPH-2F94BcIDEOGRAPH-2F94C
cIDEOGRAPH-2F94DcIDEOGRAPH-2F94EcIDEOGRAPH-2F94FcIDEOGRAPH-2F950cIDEOGRAPH-2F951cIDEOGRAPH-2F952
cIDEOGRAPH-2F953cIDEOGRAPH-2F954cIDEOGRAPH-2F955cIDEOGRAPH-2F956cIDEOGRAPH-2F957cIDEOGRAPH-2F958
cIDEOGRAPH-2F959cIDEOGRAPH-2F95AcIDEOGRAPH-2F95BcIDEOGRAPH-2F95CcIDEOGRAPH-2F95DcIDEOGRAPH-2F95E
cIDEOGRAPH-2F95FcIDEOGRAPH-2F960cIDEOGRAPH-2F961cIDEOGRAPH-2F962cIDEOGRAPH-2F963cIDEOGRAPH-2F964
cIDEOGRAPH-2F965cIDEOGRAPH-2F966cIDEOGRAPH-2F967cIDEOGRAPH-2F968cIDEOGRAPH-2F969cIDEOGRAPH-2F96A
cIDEOGRAPH-2F96BcIDEOGRAPH-2F96CcIDEOGRAPH-2F96DcIDEOGRAPH-2F96EcIDEOGRAPH-2F96FcIDEOGRAPH-2F970
cIDEOGRAPH-2F971cIDEOGRAPH-2F972cIDEOGRAPH-2F973cIDEOGRAPH-2F974cIDEOGRAPH-2F975cIDEOGRAPH-2F976
cIDEOGRAPH-2F977cIDEOGRAPH-2F978cIDEOGRAPH-2F979cIDEOGRAPH-2F97AcIDEOGRAPH-2F97BcIDEOGRAPH-2F97C
cIDEOGRAPH-2F97DcIDEOGRAPH-2F97EcIDEOGRAPH-2F97FcIDEOGRAPH-2F980cIDEOGRAPH-2F981cIDEOGRAPH-2F982
cIDEOGRAPH-2F983cIDEOGRAPH-2F984cIDEOGRAPH-2F985cIDEOGRAPH-2F986cIDEOGRAPH-2F987cIDEOGRAPH-2F988
cIDEOGRAPH-2F989cIDEOGRAPH-2F98AcIDEOGRAPH-2F98BcIDEOGRAPH-2F98CcIDEOGRAPH-2F98DcIDEOGRAPH-2F98E
cIDEOGRAPH-2F98FcIDEOGRAPH-2F990cIDEOGRAPH-2F991cIDEOGRAPH-2F992cIDEOGRAPH-2F993cIDEOGRAPH-2F994
cIDEOGRAPH-2F995cIDEOGRAPH-2F996cIDEOGRAPH-2F997cIDEOGRAPH-2F998cIDEOGRAPH-2F999cIDEOGRAPH-2F99A
cIDEOGRAPH-2F99BcIDEOGRAPH-2F99CcIDEOGRAPH-2F99DcIDEOGRAPH-2F99EcIDEOGRAPH-2F99FcIDEOGRAPH-2F9A0
cIDEOGRAPH-2F9A1cIDEOGRAPH-2F9A2cIDEOGRAPH-2F9A3cIDEOGRAPH-2F9A4cIDEOGRAPH-2F9A5cIDEOGRAPH-2F9A6
cIDEOGRAPH-2F9A7cIDEOGRAPH-2F9A8cIDEOGRAPH-2F9A9cIDEOGRAPH-2F9AAcIDEOGRAPH-2F9ABcIDEOGRAPH-2F9AC
cIDEOGRAPH-2F9ADcIDEOGRAPH-2F9AEcIDEOGRAPH-2F9AFcIDEOGRAPH-2F9B0cIDEOGRAPH-2F9B1cIDEOGRAPH-2F9B2
cIDEOGRAPH-2F9B3cIDEOGRAPH-2F9B4cIDEOGRAPH-2F9B5cIDEOGRAPH-2F9B6cIDEOGRAPH-2F9B7cIDEOGRAPH-2F9B8
cIDEOGRAPH-2F9B9cIDEOGRAPH-2F9BAcIDEOGRAPH-2F9BBcIDEOGRAPH-2F9BCcIDEOGRAPH-2F9BDcIDEOGRAPH-2F9BE
cIDEOGRAPH-2F9BFcIDEOGRAPH-2F9C0cIDEOGRAPH-2F9C1cIDEOGRAPH-2F9C2cIDEOGRAPH-2F9C3cIDEOGRAPH-2F9C4
cIDEOGRAPH-2F9C5cIDEOGRAPH-2F9C6cIDEOGRAPH-2F9C7cIDEOGRAPH-2F9C8cIDEOGRAPH-2F9C9cIDEOGRAPH-2F9CA
cIDEOGRAPH-2F9CBcIDEOGRAPH-2F9CCcIDEOGRAPH-2F9CDcIDEOGRAPH-2F9CEcIDEOGRAPH-2F9CFcIDEOGRAPH-2F9D0
cIDEOGRAPH-2F9D1cIDEOGRAPH-2F9D2cIDEOGRAPH-2F9D3cIDEOGRAPH-2F9D4cIDEOGRAPH-2F9D5cIDEOGRAPH-2F9D6
cIDEOGRAPH-2F9D7cIDEOGRAPH-2F9D8cIDEOGRAPH-2F9D9cIDEOGRAPH-2F9DAcIDEOGRAPH-2F9DBcIDEOGRAPH-2F9DC
cIDEOGRAPH-2F9DDcIDEOGRAPH-2F9DEcIDEOGRAPH-2F9DFcIDEOGRAPH-2F9E0cIDEOGRAPH-2F9E1cIDEOGRAPH-2F9E2
cIDEOGRAPH-2F9E3cIDEOGRAPH-2F9E4cIDEOGRAPH-2F9E5cIDEOGRAPH-2F9E6cIDEOGRAPH-2F9E7cIDEOGRAPH-2F9E8
cIDEOGRAPH-2F9E9cIDEOGRAPH-2F9EAcIDEOGRAPH-2F9EBcIDEOGRAPH-2F9ECcIDEOGRAPH-2F9EDcIDEOGRAPH-2F9EE
cIDEOGRAPH-2F9EFcIDEOGRAPH-2F9F0cIDEOGRAPH-2F9F1cIDEOGRAPH-2F9F2cIDEOGRAPH-2F9F3cIDEOGRAPH-2F9F4
cIDEOGRAPH-2F9F5cIDEOGRAPH-2F9F6cIDEOGRAPH-2F9F7cIDEOGRAPH-2F9F8cIDEOGRAPH-2F9F9cIDEOGRAPH-2F9FA
cIDEOGRAPH-2F9FBcIDEOGRAPH-2F9FCcIDEOGRAPH-2F9FDcIDEOGRAPH-2F9FEcIDEOGRAPH-2F9FFcIDEOGRAPH-2FA00
cIDEOGRAPH-2FA01cIDEOGRAPH-2FA02cIDEOGRAPH-2FA03cIDEOGRAPH-2FA04cIDEOGRAPH-2FA05cIDEOGRAPH-2FA06
cIDEOGRAPH-2FA07cIDEOGRAPH-2FA08cIDEOGRAPH-2FA09cIDEOGRAPH-2FA0AcIDEOGRAPH-2FA0BcIDEOGRAPH-2FA0C
cIDEOGRAPH-2FA0DcIDEOGRAPH-2FA0EcIDEOGRAPH-2FA0FcIDEOGRAPH-2FA10cIDEOGRAPH-2FA11cIDEOGRAPH-2FA12
cIDEOGRAPH-2FA13cIDEOGRAPH-2FA14cIDEOGRAPH-2FA15cIDEOGRAPH-2FA16cIDEOGRAPH-2FA17cIDEOGRAPH-2FA18
cIDEOGRAPH-2FA19cIDEOGRAPH-2FA1AcIDEOGRAPH-2FA1BcIDEOGRAPH-2FA1CcIDEOGRAPH-2FA1DcIDEOGRAPH-F900
cIDEOGRAPH-F901cIDEOGRAPH-F902cIDEOGRAPH-F903cIDEOGRAPH-F904cIDEOGRAPH-F905cIDEOGRAPH-F906
cIDEOGRAPH-F907cIDEOGRAPH-F908cIDEOGRAPH-F909cIDEOGRAPH-F90AcIDEOGRAPH-F90BcIDEOGRAPH-F90C
cIDEOGRAPH-F90DcIDEOGRAPH-F90EcIDEOGRAPH-F90FcIDEOGRAPH-F910cIDEOGRAPH-F911cIDEOGRAPH-F912
cIDEOGRAPH-F913cIDEOGRAPH-F914cIDEOGRAPH-F915cIDEOGRAPH-F916cIDEOGRAPH-F917cIDEOGRAPH-F918
cIDEOGRAPH-F919cIDEOGRAPH-F91AcIDEOGRAPH-F91BcIDEOGRAPH-F91CcIDEOGRAPH-F91DcIDEOGRAPH-F91E
cIDEOGRAPH-F91FcIDEOGRAPH-F920cIDEOGRAPH-F921cIDEOGRAPH-F922cIDEOGRAPH-F923cIDEOGRAPH-F924
cIDEOGRAPH-F925cIDEOGRAPH-F926cIDEOGRAPH-F927cIDEOGRAPH-F928cIDEOGRAPH-F929cIDEOGRAPH-F92A
cIDEOGRAPH-F92BcIDEOGRAPH-F92CcIDEOGRAPH-F92DcIDEOGRAPH-F92EcIDEOGRAPH-F92FcIDEOGRAPH-F930
cIDEOGRAPH-F931cIDEOGRAPH-F932cIDEOGRAPH-F933cIDEOGRAPH-F934cIDEOGRAPH-F935cIDEOGRAPH-F936
cIDEOGRAPH-F937cIDEOGRAPH-F938cIDEOGRAPH-F939cIDEOGRAPH-F93AcIDEOGRAPH-F93BcIDEOGRAPH-F93C
cIDEOGRAPH-F93DcIDEOGRAPH-F93EcIDEOGRAPH-F93FcIDEOGRAPH-F940cIDEOGRAPH-F941cIDEOGRAPH-F942
cIDEOGRAPH-F943cIDEOGRAPH-F944cIDEOGRAPH-F945cIDEOGRAPH-F946cIDEOGRAPH-F947cIDEOGRAPH-F948
cIDEOGRAPH-F949cIDEOGRAPH-F94AcIDEOGRAPH-F94BcIDEOGRAPH-F94CcIDEOGRAPH-F94DcIDEOGRAPH-F94E
cIDEOGRAPH-F94FcIDEOGRAPH-F950cIDEOGRAPH-F951cIDEOGRAPH-F952cIDEOGRAPH-F953cIDEOGRAPH-F954
cIDEOGRAPH-F955cIDEOGRAPH-F956cIDEOGRAPH-F957cIDEOGRAPH-F958cIDEOGRAPH-F959cIDEOGRAPH-F95A
cIDEOGRAPH-F95BcIDEOGRAPH-F95CcIDEOGRAPH-F95DcIDEOGRAPH-F95EcIDEOGRAPH-F95FcIDEOGRAPH-F960
cIDEOGRAPH-F961cIDEOGRAPH-F962cIDEOGRAPH-F963cIDEOGRAPH-F964cIDEOGRAPH-F965cIDEOGRAPH-F966
cIDEOGRAPH-F967cIDEOGRAPH-F968cIDEOGRAPH-F969cIDEOGRAPH-F96AcIDEOGRAPH-F96BcIDEOGRAPH-F96C
cIDEOGRAPH-F96DcIDEOGRAPH-F96EcIDEOGRAPH-F96FcIDEOGRAPH-F970cIDEOGRAPH-F971cIDEOGRAPH-F972
cIDEOGRAPH-F973cIDEOGRAPH-F974cIDEOGRAPH-F975cIDEOGRAPH-F976cIDEOGRAPH-F977cIDEOGRAPH-F978
cIDEOGRAPH-F979cIDEOGRAPH-F97AcIDEOGRAPH-F97BcIDEOGRAPH-F97CcIDEOGRAPH-F97DcIDEOGRAPH-F97E
cIDEOGRAPH-F97FcIDEOGRAPH-F980cIDEOGRAPH-F981cIDEOGRAPH-F982cIDEOGRAPH-F983cIDEOGRAPH-F984
cIDEOGRAPH-F985cIDEOGRAPH-F986cIDEOGRAPH-F987cIDEOGRAPH-F988cIDEOGRAPH-F989cIDEOGRAPH-F98A
cIDEOGRAPH-F98BcIDEOGRAPH-F98CcIDEOGRAPH-F98DcIDEOGRAPH-F98EcIDEOGRAPH-F98FcIDEOGRAPH-F990
cIDEOGRAPH-F991cIDEOGRAPH-F992cIDEOGRAPH-F993cIDEOGRAPH-F994cIDEOGRAPH-F995cIDEOGRAPH-F996
cIDEOGRAPH-F997cIDEOGRAPH-F998cIDEOGRAPH-F999cIDEOGRAPH-F99AcIDEOGRAPH-F99BcIDEOGRAPH-F99C
cIDEOGRAPH-F99DcIDEOGRAPH-F99EcIDEOGRAPH-F99FcIDEOGRAPH-F9A0cIDEOGRAPH-F9A1cIDEOGRAPH-F9A2
cIDEOGRAPH-F9A3cIDEOGRAPH-F9A4cIDEOGRAPH-F9A5cIDEOGRAPH-F9A6cIDEOGRAPH-F9A7cIDEOGRAPH-F9A8
cIDEOGRAPH-F9A9cIDEOGRAPH-F9AAcIDEOGRAPH-F9ABcIDEOGRAPH-F9ACcIDEOGRAPH-F9ADcIDEOGRAPH-F9AE
cIDEOGRAPH-F9AFcIDEOGRAPH-F9B0cIDEOGRAPH-F9B1cIDEOGRAPH-F9B2cIDEOGRAPH-F9B3cIDEOGRAPH-F9B4
cIDEOGRAPH-F9B5cIDEOGRAPH-F9B6cIDEOGRAPH-F9B7cIDEOGRAPH-F9B8cIDEOGRAPH-F9B9cIDEOGRAPH-F9BA
cIDEOGRAPH-F9BBcIDEOGRAPH-F9BCcIDEOGRAPH-F9BDcIDEOGRAPH-F9BEcIDEOGRAPH-F9BFcIDEOGRAPH-F9C0
cIDEOGRAPH-F9C1cIDEOGRAPH-F9C2cIDEOGRAPH-F9C3cIDEOGRAPH-F9C4cIDEOGRAPH-F9C5cIDEOGRAPH-F9C6
cIDEOGRAPH-F9C7cIDEOGRAPH-F9C8cIDEOGRAPH-F9C9cIDEOGRAPH-F9CAcIDEOGRAPH-F9CBcIDEOGRAPH-F9CC
cIDEOGRAPH-F9CDcIDEOGRAPH-F9CEcIDEOGRAPH-F9CFcIDEOGRAPH-F9D0cIDEOGRAPH-F9D1cIDEOGRAPH-F9D2
cIDEOGRAPH-F9D3cIDEOGRAPH-F9D4cIDEOGRAPH-F9D5cIDEOGRAPH-F9D6cIDEOGRAPH-F9D7cIDEOGRAPH-F9D8
cIDEOGRAPH-F9D9cIDEOGRAPH-F9DAcIDEOGRAPH-F9DBcIDEOGRAPH-F9DCcIDEOGRAPH-F9DDcIDEOGRAPH-F9DE
cIDEOGRAPH-F9DFcIDEOGRAPH-F9E0cIDEOGRAPH-F9E1cIDEOGRAPH-F9E2cIDEOGRAPH-F9E3cIDEOGRAPH-F9E4
cIDEOGRAPH-F9E5cIDEOGRAPH-F9E6cIDEOGRAPH-F9E7cIDEOGRAPH-F9E8cIDEOGRAPH-F9E9cIDEOGRAPH-F9EA
cIDEOGRAPH-F9EBcIDEOGRAPH-F9ECcIDEOGRAPH-F9EDcIDEOGRAPH-F9EEcIDEOGRAPH-F9EFcIDEOGRAPH-F9F0
cIDEOGRAPH-F9F1cIDEOGRAPH-F9F2cIDEOGRAPH-F9F3cIDEOGRAPH-F9F4cIDEOGRAPH-F9F5cIDEOGRAPH-F9F6
cIDEOGRAPH-F9F7cIDEOGRAPH-F9F8cIDEOGRAPH-F9F9cIDEOGRAPH-F9FAcIDEOGRAPH-F9FBcIDEOGRAPH-F9FC
cIDEOGRAPH-F9FDcIDEOGRAPH-F9FEcIDEOGRAPH-F9FFcIDEOGRAPH-FA00cIDEOGRAPH-FA01cIDEOGRAPH-FA02
cIDEOGRAPH-FA03cIDEOGRAPH-FA04cIDEOGRAPH-FA05cIDEOGRAPH-FA06cIDEOGRAPH-FA07cIDEOGRAPH-FA08
cIDEOGRAPH-FA09cIDEOGRAPH-FA0AcIDEOGRAPH-FA0BcIDEOGRAPH-FA0CcIDEOGRAPH-FA0DcIDEOGRAPH-FA0E
cIDEOGRAPH-FA0FcIDEOGRAPH-FA10cIDEOGRAPH-FA11cIDEOGRAPH-FA12cIDEOGRAPH-FA13cIDEOGRAPH-FA14
cIDEOGRAPH-FA15cIDEOGRAPH-FA16cIDEOGRAPH-FA17cIDEOGRAPH-FA18cIDEOGRAPH-FA19cIDEOGRAPH-FA1A
cIDEOGRAPH-FA1BcIDEOGRAPH-FA1CcIDEOGRAPH-FA1DcIDEOGRAPH-FA1EcIDEOGRAPH-FA1FcIDEOGRAPH-FA20
cIDEOGRAPH-FA21cIDEOGRAPH-FA22cIDEOGRAPH-FA23cIDEOGRAPH-FA24cIDEOGRAPH-FA25cIDEOGRAPH-FA26
cIDEOGRAPH-FA27cIDEOGRAPH-FA28cIDEOGRAPH-FA29cIDEOGRAPH-FA2AcIDEOGRAPH-FA2BcIDEOGRAPH-FA2C
cIDEOGRAPH-FA2DcIDEOGRAPH-FA2EcIDEOGRAPH-FA2FcIDEOGRAPH-FA30cIDEOGRAPH-FA31cIDEOGRAPH-FA32
cIDEOGRAPH-FA33cIDEOGRAPH-FA34cIDEOGRAPH-FA35cIDEOGRAPH-FA36cIDEOGRAPH-FA37cIDEOGRAPH-FA38
cIDEOGRAPH-FA39cIDEOGRAPH-FA3AcIDEOGRAPH-FA3BcIDEOGRAPH-FA3CcIDEOGRAPH-FA3DcIDEOGRAPH-FA3E
cIDEOGRAPH-FA3FcIDEOGRAPH-FA40cIDEOGRAPH-FA41cIDEOGRAPH-FA42cIDEOGRAPH-FA43cIDEOGRAPH-FA44
cIDEOGRAPH-FA45cIDEOGRAPH-FA46cIDEOGRAPH-FA47cIDEOGRAPH-FA48cIDEOGRAPH-FA49cIDEOGRAPH-FA4A
cIDEOGRAPH-FA4BcIDEOGRAPH-FA4CcIDEOGRAPH-FA4DcIDEOGRAPH-FA4EcIDEOGRAPH-FA4FcIDEOGRAPH-FA50
cIDEOGRAPH-FA51cIDEOGRAPH-FA52cIDEOGRAPH-FA53cIDEOGRAPH-FA54cIDEOGRAPH-FA55cIDEOGRAPH-FA56
cIDEOGRAPH-FA57cIDEOGRAPH-FA58cIDEOGRAPH-FA59cIDEOGRAPH-FA5AcIDEOGRAPH-FA5BcIDEOGRAPH-FA5C
cIDEOGRAPH-FA5DcIDEOGRAPH-FA5EcIDEOGRAPH-FA5FcIDEOGRAPH-FA60cIDEOGRAPH-FA61cIDEOGRAPH-FA62
cIDEOGRAPH-FA63cIDEOGRAPH-FA64cIDEOGRAPH-FA65cIDEOGRAPH-FA66cIDEOGRAPH-FA67cIDEOGRAPH-FA68
cIDEOGRAPH-FA69cIDEOGRAPH-FA6AcIDEOGRAPH-FA6BcIDEOGRAPH-FA6CcIDEOGRAPH-FA6DcIDEOGRAPH-FA70
cIDEOGRAPH-FA71cIDEOGRAPH-FA72cIDEOGRAPH-FA73cIDEOGRAPH-FA74cIDEOGRAPH-FA75cIDEOGRAPH-FA76
cIDEOGRAPH-FA77cIDEOGRAPH-FA78cIDEOGRAPH-FA79cIDEOGRAPH-FA7AcIDEOGRAPH-FA7BcIDEOGRAPH-FA7C
cIDEOGRAPH-FA7DcIDEOGRAPH-FA7EcIDEOGRAPH-FA7FcIDEOGRAPH-FA80cIDEOGRAPH-FA81cIDEOGRAPH-FA82
cIDEOGRAPH-FA83cIDEOGRAPH-FA84cIDEOGRAPH-FA85cIDEOGRAPH-FA86cIDEOGRAPH-FA87cIDEOGRAPH-FA88
cIDEOGRAPH-FA89cIDEOGRAPH-FA8AcIDEOGRAPH-FA8BcIDEOGRAPH-FA8CcIDEOGRAPH-FA8DcIDEOGRAPH-FA8E
cIDEOGRAPH-FA8FcIDEOGRAPH-FA90cIDEOGRAPH-FA91cIDEOGRAPH-FA92cIDEOGRAPH-FA93cIDEOGRAPH-FA94
cIDEOGRAPH-FA95cIDEOGRAPH-FA96cIDEOGRAPH-FA97cIDEOGRAPH-FA98cIDEOGRAPH-FA99cIDEOGRAPH-FA9A
cIDEOGRAPH-FA9BcIDEOGRAPH-FA9CcIDEOGRAPH-FA9DcIDEOGRAPH-FA9EcIDEOGRAPH-FA9FcIDEOGRAPH-FAA0
cIDEOGRAPH-FAA1cIDEOGRAPH-FAA2cIDEOGRAPH-FAA3cIDEOGRAPH-FAA4cIDEOGRAPH-FAA5cIDEOGRAPH-FAA6
cIDEOGRAPH-FAA7cIDEOGRAPH-FAA8cIDEOGRAPH-FAA9cIDEOGRAPH-FAAAcIDEOGRAPH-FAABcIDEOGRAPH-FAAC
cIDEOGRAPH-FAADcIDEOGRAPH-FAAEcIDEOGRAPH-FAAFcIDEOGRAPH-FAB0cIDEOGRAPH-FAB1cIDEOGRAPH-FAB2
cIDEOGRAPH-FAB3cIDEOGRAPH-FAB4cIDEOGRAPH-FAB5cIDEOGRAPH-FAB6cIDEOGRAPH-FAB7cIDEOGRAPH-FAB8
cIDEOGRAPH-FAB9cIDEOGRAPH-FABAcIDEOGRAPH-FABBcIDEOGRAPH-FABCcIDEOGRAPH-FABDcIDEOGRAPH-FABE
cIDEOGRAPH-FABFcIDEOGRAPH-FAC0cIDEOGRAPH-FAC1cIDEOGRAPH-FAC2cIDEOGRAPH-FAC3cIDEOGRAPH-FAC4
cIDEOGRAPH-FAC5cIDEOGRAPH-FAC6cIDEOGRAPH-FAC7cIDEOGRAPH-FAC8cIDEOGRAPH-FAC9cIDEOGRAPH-FACA
cIDEOGRAPH-FACBcIDEOGRAPH-FACCcIDEOGRAPH-FACDcIDEOGRAPH-FACEcIDEOGRAPH-FACFcIDEOGRAPH-FAD0
cIDEOGRAPH-FAD1cIDEOGRAPH-FAD2cIDEOGRAPH-FAD3cIDEOGRAPH-FAD4cIDEOGRAPH-FAD5cIDEOGRAPH-FAD6
cIDEOGRAPH-FAD7cIDEOGRAPH-FAD8cIDEOGRAPH-FAD9bRADICAL BAMBOOcBLUEcBOLT OF CLOTHcBONEcBOXcBRUSH ONE
dTWOcC-SIMPLIFIED BIRDdCARTdDRAGONdEATdEVENdFISHdFLYdFROGdGATEdGOLDdHORSEdLEAFdLONGdSALTdSEEdSHELL
dSILKdSPEECHdTANNED LEATHERdTOOTHdTURTLEdWINDcCHOKEcCITYcCIVILIANcCLIFFcCLOTHEScCOWcDEATH
cDIVINATIONcDOGcEAT ONEdTHREEdTWOcEWEcEYEcFIREcFOOTcGHOSTcGRASS ONEdTHREEdTWOcHANDcHEADcHEART ONE
dTWOcHORNcJ-SIMPLIFIED DRAGONdEVENdTOOTHdTURTLEcJADEcKNIFE ONEdTWOcLAME FOURdONEdTHREEdTWO
cLONG ONEdTWOcMEATcMESHcMOONcMORTARcMOTHERcMOUND ONEdTWOcNET FOURdONEdTHREEdTWOcOLDcPAW ONEdTWO
cPERSONcRAINcRAMcRAPcREPEATcSEALcSECOND ONEdTHREEdTWOcSHEEPcSILKcSIMPLIFIED HALF TREE TRUNKdHORN
dWALKdWHEATdYELLOWcSMALL ONEdTWOcSNAKEcSNOUT ONEdTWOcSPIRIT ONEdTWOcSUNcTABLEcTHREADcTIGERcTURTLE
cWALK ONEdTWOcWATER ONEdTWOcWEST ONEdTWObSTROKE BXGcDcHcHGcHPcHPWGcHXWGcHZcHZGcHZTcHZWcHZWGcHZZ
cHZZPcHZZZcHZZZGcNcPcPDcPGcPZcQcScSGcSPcSTcSWcSWGcSWZcSZcSZWGcSZZcTcTNcWGcXG
aCLAMSHELL MOBILE PHONEaCLAPPER BOARDaCLAPPING HANDS SIGNaCLASSICAL BUILDINGaCLEAR SCREEN SYMBOL
aCLINKING BEER MUGSbGLASSESaCLIPBOARDaCLOCK FACE EIGHT OCLOCKcEIGHT-THIRTYcELEVEN OCLOCK
cELEVEN-THIRTYcFIVE OCLOCKcFIVE-THIRTYcFOUR OCLOCKcFOUR-THIRTYcNINE OCLOCKcNINE-THIRTYcONE OCLOCK
cONE-THIRTYcSEVEN OCLOCKcSEVEN-THIRTYcSIX OCLOCKcSIX-THIRTYcTEN OCLOCKcTEN-THIRTYcTHREE OCLOCK
cTHREE-THIRTYcTWELVE OCLOCKcTWELVE-THIRTYcTWO OCLOCKcTWO-THIRTYaCLOCKWISE CLOSED CIRCLE ARROW
bCONTOUR INTEGRALbDOWNWARDS AND UPWARDS OPEN CIRCLE ARROWSbGAPPED CIRCLE ARROWbINTEGRAL
bOPEN CIRCLE ARROWbRIGHT AND LEFT SEMICIRCLE ARROWSbRIGHTWARDS AND LEFTWARDS OPEN CIRCLE ARROWS
hWITH CIRCLED ONE OVERLAYbTOP SEMICIRCLE ARROWbTRIANGLE-HEADED OPEN CIRCLE ARROWaCLOSE UP
aCLOSED BOOKbINTERSECTION WITH SERIFSbLOCK WITH KEYbMAILBOX WITH LOWERED FLAGdRAISED FLAGbSUBSET
cOR EQUAL TObSUPERSETcOR EQUAL TObUMBRELLAbUNION WITH SERIFSeAND SMASH PRODUCTaCLOUD
bWITH LIGHTNINGcRAINcSNOWcTORNADOaCLOWN FACEaCOATaCOCKROACHaCOCKTAIL GLASSaCOCONUTaCOFFINaCOIN
aCOLLISION SYMBOLaCOLONbEQUALSbSIGNaCOMBINING ACUTE ACCENTdBELOWcTONE MARKbACUTE-GRAVE-ACUTE
bACUTE-MACRONbALMOST EQUAL TO ABOVEeBELOWbANNUITY SYMBOLbANTICLOCKWISE ARROW ABOVEcRING OVERLAY
bASTERISK ABOVEcBELOWbBINDU BELOWbBREVEcBELOWbBREVE-MACRONbBRIDGE ABOVEcBELOWbCANDRABINDUbCARON
cBELOWbCEDILLAbCIRCUMFLEX ACCENTdBELOWbCLOCKWISE ARROW ABOVEcRING OVERLAYbCOMMA ABOVEdRIGHTcBELOW
bCONJOINING MACRONdBELOWbCYRILLIC DASIA PNEUMATAcHUNDRED MILLIONS SIGNdTHOUSANDS SIGNcKAVYKA
cLETTER AdBEdBIG YUSdCHEdDEdDJERVdEFdELdEMdENdERdESdES-TEdFITAdGHEdHAdHARD SIGNdIdIEdIOTIFIED A
eBIG YUSeEdKAdLITTLE YUSdMONOGRAPH UKdOdOMEGAdPEdSHAdSHCHAdSOFT SIGNdTEdTSEdUdUKRAINIAN IEdVEdYAT
dYERUdYIdYUdZEdZHEcMILLIONS SIGNcPALATALIZATIONcPAYEROKcPOKRYTIEcPSILI PNEUMATAcTEN MILLIONS SIGN
cTHOUSAND MILLIONS SIGNcTITLOdLEFT HALFdRIGHT HALFcVZMETbDELETION MARKbDEVANAGARI DIGIT EIGHTdFIVE
dFOURdNINEdONEdSEVENdSIXdTHREEdTWOdZEROcLETTER AdKAdNAdPAdRAdUdVIcSIGN AVAGRAHAbDIAERESIScBELOW
bDIAERESIS-RINGbDOT ABOVEdLEFTdRIGHTcBELOWdLEFTbDOTTED ACUTE ACCENTcGRAVE ACCENT
bDOUBLE ACUTE ACCENTcBREVEdBELOWcCIRCUMFLEX ABOVEcGRAVE ACCENTcINVERTED BREVEeBELOWcLOW LINE
cMACRONdBELOWcOPEN MARK BELOWcOVERLINEcPARENTHESES ABOVEcPLUS SIGN ABOVEeBELOW
cRIGHTWARDS ARROW BELOWcRING BELOWcTILDEdLEFT HALFdRIGHT HALFcVERTICAL LINE ABOVEeBELOW
dSTROKE OVERLAYbDOUBLED CIRCUMFLEX ACCENTbDOWN TACK BELOWbDOWNWARDS ARROWbENCLOSING CIRCLE
dBACKSLASHcDIAMONDcKEYCAPcSCREENcSQUAREcUPWARD POINTING TRIANGLEbEQUALS SIGN BELOWbFERMATA
bFOUR DOTS ABOVEbGLAGOLITIC LETTER AZUdBIG YUSdBUKYdCHRIVIdDJERVIdDOBROdFITAdFRITUdGLAGOLIdHERUdI
dINITIAL IZHEdIOTATED BIG YUSeSMALL YUSdIZHEdKAKOdLJUDIJEdMYSLITEdNASHIdONUdPOKOJIdRITSIdSHAdSHTA
dSLOVOdSMALL YUSdTSIdTVRIDOdUKUdVEDEdYATIdYERIdYERUdYESTUdYOdYUdZEMLJAdZHIVETEbGRANTHA DIGIT FIVE
dFOURdONEdSIXdTHREEdTWOdZEROcLETTER AdKAdNAdPAdVIbGRAPHEME JOINERbGRAVE ACCENTdBELOWcTONE MARK
bGRAVE-ACUTE-GRAVEbGRAVE-MACRONbGREEK DIALYTIKA TONOScKORONIScMUSICAL PENTASEMEdTETRASEMEdTRISEME
cPERISPOMENIcYPOGEGRAMMENIbHOMOTHETIC ABOVEbHOOK ABOVEbHORNbINFINITYbINVERTED BREVEdBELOW
cBRIDGE BELOWcDOUBLE ARCH ABOVEeBELOWbIS BELOWbKATAKANA-HIRAGANA SEMI-VOICED SOUND MARK
cVOICED SOUND MARKbKAVYKA ABOVE LEFTdRIGHTbLATIN LETTER SMALL CAPITAL GfLfMfNfRcSMALL LETTER A
fWITH DIAERESISeAEeALPHAeAOeAVeBeBETAeCfCEDILLAeDeEeESHeETHeFeFLATTENED OPEN A ABOVEeGeHeI
eINSULAR DfGfRfTeKeLfWITH DOUBLE MIDDLE TILDEeLONG SeMeNeOfWITH DIAERESIS
gLIGHT CENTRALIZATION STROKEePeRfBELOWfROTUNDAeSeSCHWAeTeTURNED W BELOWeUfWITH DIAERESIS
gLIGHT CENTRALIZATION STROKEeVeWfBELOWeXeZbLEFT ANGLE ABOVEdBELOWcARROW ABOVEdBELOW
cARROWHEAD ABOVEdBELOWcHALF RING ABOVEeBELOWcHARPOON ABOVEcPARENTHESIS ABOVE LEFTdBELOW LEFT
cRIGHT ARROW ABOVEeBELOWcTACK BELOWbLEFTWARDS ARROW OVERLAYcHARPOON WITH BARB DOWNWARDS
bLIGATURE LEFT HALFeBELOWcRIGHT HALFeBELOWbLIGHT CENTRALIZATION STROKE BELOW
bLONG DOUBLE SOLIDUS OVERLAYcSOLIDUS OVERLAYcSTROKE OVERLAYcVERTICAL LINE OVERLAYbLOW LINEbMACRON
cBELOWcLEFT HALFeBELOWcRIGHT HALFeBELOWbMACRON-ACUTEbMACRON-BREVEbMACRON-GRAVEbMINUS SIGN BELOW
bNOT TILDE ABOVEbNUMBER SIGN ABOVEbOGONEKcABOVEbOLD PERMIC LETTER ANeDOIeNENOEeSIIeZATA
bOPEN MARK BELOWbOVERLINEbPALATALIZED HOOK BELOWbPARENTHESES ABOVEcBELOWcOVERLAYbPLUS SIGN ABOVE
dBELOWbRETROFLEX HOOK BELOWbREVERSE SOLIDUS OVERLAYbREVERSED COMMA ABOVEbRIGHT ARROW ABOVEdBELOW
cARROWHEAD ABOVEdAND DOWN ARROWHEAD BELOWeUP ARROWHEAD BELOWdBELOWcHALF RING ABOVEeBELOW
cHARPOON ABOVEcPARENTHESIS ABOVE RIGHTdBELOW RIGHTcTACK BELOW
bRIGHTWARDS HARPOON WITH BARB DOWNWARDSbRING ABOVEcBELOWcOVERLAYbSEAGULL BELOW
bSHORT SOLIDUS OVERLAYcSTROKE OVERLAYcVERTICAL LINE OVERLAYbSNAKE BELOWbSQUARE BELOW
cBRACKETS ABOVEbSTRONG CENTRALIZATION STROKE BELOWbSUSPENSION MARKbTHREE DOTS ABOVEbTILDEcBELOW
cLEFT HALF BELOWcOVERLAYcRIGHT HALF BELOWbTRIPLE ACUTE ACCENTcDOTcUNDERDOTbTURNED COMMA ABOVE
bUP TACK ABOVEdBELOWbUPWARDS ARROW BELOWbUR ABOVEbUS ABOVEbVERTICAL LINE ABOVEdBELOWcTILDE
bWIDE BRIDGE ABOVEcINVERTED BRIDGE BELOWbWIGGLY LINE BELOWbX ABOVEcBELOWbX-X BELOWbZIGZAG ABOVE
cBELOWaCOMETaCOMMAaCOMMERCIAL ATbMINUS SIGNaCOMPASSaCOMPLEMENTaCOMPOSITION SYMBOLaCOMPRESSION
aCONFETTI BALLaCONFOUNDED FACEaCONFUSED FACEaCONGRUENT WITH DOT ABOVEaCONICAL TAPERaCONJUNCTION
aCONSTRUCTION SIGNbWORKERaCONTAINS AS MEMBERcNORMAL SUBGROUPeOR EQUAL TO
bWITH LONG HORIZONTAL STROKEcOVERBARcVERTICAL BAR AT END OF HORIZONTAL STROKE
aCONTINUOUS UNDERLINE SYMBOLaCONTOUR INTEGRALaCONTROL KNOBSbSEQUENCE INTRODUCERaCONVENIENCE STORE
aCOOKED RICEaCOOKIEaCOOKINGaCOPTIC CAPITAL LETTER AKHMIMIC KHEIdALFAdBOHAIRIC KHEIdCROSSED SHEI
dCRYPTOGRAMMIC EIEeGANGIAeNIeSHEIdDALDAdDEIdDIALECT-P ALEFeHORIeKAPAeNIdEIEdFEIdFIdGAMMAdGANGIA
dHATEdHORIdIAUDAdKAPAdKHEIdKHIdKSIdL-SHAPED HAdLAULAdMIdNIdOdOLD COPTIC AINfDJAfESHfGANGIAfHAfHAT
fHEIfHORIfOOUfSHEIfSHIMAeNUBIAN NGIfNYIfSHIMAfWAUdOOUdPIdPSIdROdSAMPIdSHEIdSHIMAdSIMAdSOUdTAU
dTHETHEdUAdVIDAdZATAbCOMBINING NI ABOVEcSPIRITUS ASPERdLENISbEPACT DIGIT EIGHTdFIVEdFOURdNINEdONE
dSEVENdSIXdTHREEdTWOcNUMBER EIGHT HUNDREDdEIGHTYdFIFTYdFIVE HUNDREDdFORTYdFOUR HUNDRED
dNINE HUNDREDdNINETYdONE HUNDREDdSEVEN HUNDREDdSEVENTYdSIX HUNDREDdSIXTYdTENdTHIRTYdTHREE HUNDRED
dTWENTYdTWO HUNDREDcTHOUSANDS MARKbFRACTION ONE HALFbFULL STOPbMORPHOLOGICAL DIVIDER
bOLD NUBIAN DIRECT QUESTION MARKdFULL STOPdINDIRECT QUESTION MARKdVERSE DIVIDER
bSMALL LETTER AKHMIMIC KHEIdALFAdBOHAIRIC KHEIdCROSSED SHEIdCRYPTOGRAMMIC EIEeGANGIAeNIeSHEIdDALDA
dDEIdDIALECT-P ALEFeHORIeKAPAeNIdEIEdFEIdFIdGAMMAdGANGIAdHATEdHORIdIAUDAdKAPAdKHEIdKHIdKSI
dL-SHAPED HAdLAULAdMIdNIdOdOLD COPTIC AINfDJAfESHfGANGIAfHAfHATfHEIfHORIfOOUfSHEIfSHIMAeNUBIAN NGI
fNYIfSHIMAfWAUdOOUdPIdPSIdROdSAMPIdSHEIdSHIMAdSIMAdSOUdTAUdTHETHEdUAdVIDAdZATAbSYMBOL KAIcKHI RO
cMI ROcPI ROcSHIMA SIMAcSTAUROScTAU ROaCOPYLEFT SYMBOLaCOPYRIGHT SIGNaCORALaCORNISH VERSE DIVIDER
aCORRESPONDS TOaCOUCH AND LAMPaCOUNTERBOREaCOUNTERSINKaCOUNTING ROD TENS DIGIT EIGHTeFIVEeFOUR
eNINEeONEeSEVENeSIXeTHREEeTWOcUNIT DIGIT EIGHTeFIVEeFOUReNINEeONEeSEVENeSIXeTHREEeTWO
aCOUPLE WITH HEARTaCOWbFACEaCRaCRABaCREDIT CARDaCRESCENT MOONaCRICKETbBAT AND BALLaCROCODILE
aCROISSANTaCROSS MARKbOF JERUSALEMcLORRAINEbPATTY WITH LEFT CROSSBARdRIGHT CROSSBARbPOMMEE
cWITH HALF-CIRCLE BELOWaCROSSED FLAGSbNEGATIVE SQUARED LATIN CAPITAL LETTER PbSWORDS
aCROSSING LANESaCROWNaCRUTCHaCRUZEIRO SIGNaCRYING CAT FACEbFACEaCRYSTAL BALLaCSIaCUBE ROOT
aCUCUMBERaCUNEIFORM NUMERIC SIGN EIGHT ASHeDISHeGESH2eSHAR2eUfVARIANT FORMeVARIANT FORM USSUgUSSU3
dELAMITE FIFTYeFORTYeONE THIRDeTWO THIRDSdFIVE ASHfTENUeBAN2fVARIANT FORMeBURUeDISHeGESH2eGESHU
eSHAR2eSHARUeSIXTHS DISHeUfVARIANT FORMdFOUR ASHfTENUeBAN2fVARIANT FORMeBURUeDISHeGESH2eGESHU
eSHAR2eSHARUeUfVARIANT FORMeVARIANT FORM LIMMUhAhBgLIMMU4dNIGIDAESHdNIGIDAMINdNINE ASHeDISHeGESH2
eSHAR2eUfVARIANT FORMeVARIANT FORM ILIMMUhAgILIMMU3gILIMMU4dOLD ASSYRIAN ONE QUARTERgSIXTH
dONE BAN2eBURUeEIGHTH ASHeESHE3eGESH2eGESHUeHALF GUReQUARTER ASHfGUReSHARUeTHIRD DISH
fVARIANT FORM AdSEVEN ASHeDISHeGESH2eSHAR2eUfVARIANT FORMeVARIANT FORM IMIN AhBgIMIN3
dSHAR2 TIMES GAL PLUS DISHhMINdSIX ASHfTENUeDISHeGESH2eSHAR2eUfVARIANT FORMeVARIANT FORM ASH9
dTHREE ASHfTENUeBAN2eBURUfVARIANT FORMeDISHeGESH2eGESHUeSHAR2fVARIANT FORMeSHARUfVARIANT FORM
eVARIANT FORM ESH16gESH21dTWO ASHfTENUeBAN2eBURUeESHE3eGESH2eGESHUeSHAR2eSHARUeTHIRDS DISH
fVARIANT FORM AbPUNCTUATION SIGN DIAGONAL COLONeQUADCOLONeTRICOLONdOLD ASSYRIAN WORD DIVIDER
dVERTICAL COLONbSIGN AdTIMES AeBADeGAN2 TENUeHAeIGIeLAGAR GUNUeMUSHeSAGcA2cABdGUNUdTIMES ASH2
eDUN3 GUNUeGALeGAN2 TENUeHAeIGI GUNUeIMINeLAGABeNUNfTENUeSHESHeSHU2eU PLUS U PLUS UcAB2dTIMES A
eBALAGeGAN2 TENUeME PLUS ENeSHA3eTAK4cADdTIMES ESH2cAKdTIMES ERIN2eSHITA PLUS GISHcALdTIMES AL
eDIM2eGISHeHAeKAD3eKIeSHEeUSHcALANcALEPHcAMARdTIMES KUGeSHEcANdOVER AN
dPLUS NAGA OPPOSING AN PLUS NAGAfSQUAREDdTHREE TIMEScANSHEcAPINcARADdTIMES KURcARKABcASAL2cASH
dKABA TENUdOVER ASH OVER ASHhCROSSING ASH OVER ASH OVER ASHfTUG2 OVER TUG2 TUG2 OVER TUG2 PAP
dZIDA TENUcASH2cASHGABcBAcBADdTIMES DISH TENUcBAG3cBAHAR2dTIMES AB2eNIeZAcBALdOVER BALcBALAGcBAR
cBARA2cBIdTIMES AeGAReIGI GUNUcBUdCROSSING BUdOVER BU ABfTIMES NA2fUNcBULUGdOVER BULUGcBURcBUR2cDA
dTIMES TAK4cDAGdKISIM5 TIMES A PLUS MASHfAMARfBALAGfBIfGAgPLUS MASHfGIfGIR2fGUDfHAfIRgPLUS LUfKAK
fLAfLUgPLUS MASH2fLUMfNEfPAP PLUS PAPfSIfTAK4fU2 PLUS GIR2hMASHfUSHdTIMES KURcDAG3cDAMcDARcDARA3
cDARA4cDIcDIBcDIMdTIMES IGIeSHEeU U UcDIM2dTIMES UDcDINdKASKAL U GUNU DISHcDISHdPLUS SHUcDUdGUNU
dOVER DUdSHESHIGcDUBdTIMES ESH2eSHEcDUB2cDUGdTIMES ANSHEeASHfAT LEFTeDINeDUNeERIN2eGAeGIeGIR2 GUNU
eGISHeHAeHIeIGI GUNUeKASKALeKUReKUSHU2fPLUS KASKALeLAK-020eLAMfTIMES KUReLUH PLUS GISHeMASHeMESeMI
eNIePIeSHEeSI GUNUcDUGUDcDUHcDUNcDUN3dGUNUeGUNUcDUN4cDUR2cEdOVER E NUN OVER NUNdTIMES PAPcE2
dTIMES A PLUS HA PLUS DAeGAReKUReMIePAPeSALeSHEeUcEDINcEGIRcELcENdCROSSING ENdOPPOSING ENdSQUARED
dTIMES GAN2fTENUeMEcERENcERIN2dXcESH2dCROSSING ESH2cEZENdSHESHIG TIMES ASHfHIfIGI GUNUfLAfLALfME
fMESfSUdTIMES AfPLUS LALhTIMES LALeANeBADeDUN3 GUNUgGUNUeGUDeHAfGUNUeIGI GUNUeKASKALfSQUAREDeKU3
eLAeLAL TIMES LALeLIeLUeSHEeSUeU2eUDcGAdGUNUcGA2dOVER GA2dTIMES A PLUS DA PLUS HAgHAgIGI
eAB2 TENU PLUS TABeANfPLUS KAK PLUS AeASHeASH2fPLUS GALeBADeBAHAR2eBAR PLUS RAeBURfPLUS RAeDAeDI
eDIM GUNUfTIMES SHEeDUBeDUG TIMES IGI GUNUgKASKALeELfPLUS LAeENfTIMES GAN2 TENUeERENeGAeGAN2 TENU
eGARfPLUS DIgNEeGIeGI4fPLUS AeGIR2 PLUS SUeHA PLUS AgLU PLUS ESH2eHALfPLUS LAeHI PLUS LIeHUB2
eIGI GUNUeISH PLUS HU PLUS ASHeKAKeKASKALeKIDfPLUS LALeKU3 PLUS ANeKUSHU2 PLUS KASKALeLAeLAM
fTIMES KUReLUHeME PLUS ENeMIeMUSHeNEfPLUS E2gGIeNUNfOVER NUNePAeSALeSAReSHEfPLUS TUReSHIDeSHIMeSUM
eTAK4eUeUDfPLUS DUeZIZ2cGABAdCROSSING GABAdROTATED NINETY DEGREEScGADdOVER GAD GAR OVER GARcGAL
dGAD OVER GAD GAR OVER GARcGALAMcGAMcGANcGAN2dCROSSING GAN2dOVER GAN2dTENUcGARcGAR3cGASHANcGE22
cGESHTINdTIMES KUReUcGIdCROSSING GIdTIMES EeUcGI4dCROSSING GI4dOVER GI4cGIDIMcGIGcGIR2dGUNUcGIR3
dTIMES A PLUS IGIeGAN2 TENUeIGIeLU PLUS IGIePAcGISALcGISHdCROSSING GISHdTENUdTIMES BAD
eGISH CROSSING GISHeTAK4cGUdCROSSING GUcGU2dGUNUdTIMES IGI GUNUeKAKfTIMES IGI GUNUeNUN
eSAL PLUS TUG2cGUDdOVER GUD LUGALdPLUS GISH TIMES TAK4dTIMES A PLUS KUReKURcGULcGUMdTIMES SHEcGUR
cGUR7cGURUNcGURUSHcHAdGUNUdTENUeGUNUcHALcHIdTIMES ASHfOVER HI TIMES ASHeASH2eBADeDISHeGADeKINeNUN
eSHEeUcHUcHUB2dTIMES ANeHALeKASKALeLISHeUDcHUL2cHUSHcIdAcIBcIDIMdOVER IDIM BURfSQUAREDcIGcIGIdDIB
dGUNUdOVER IGI SHIR OVER SHIR UD OVER UDdRIcILdTIMES GAN2 TENUcIL2cIMdCROSSING IMdOPPOSING IM
dSQUAREDdTIMES TAK4cIMINcINcIRcISHcKAdTIMES AeADfPLUS KU3eANSHEeASH2eASH3eBADeBALAGeBAReBIeBU
eERIN2eESH2eGAeGALeGAN2 TENUeGARfPLUS SHA3 PLUS AeGIeGIR2eGISHfCROSSING GISHfPLUS SAReGUeGUDeGUR7
eHI TIMES ASH2eIGIeIMeKAeKAKeKIeKIDeLIeLUeLUMeMEfPLUS DUgGIgTEeMIfPLUS NUNUZeNEeNUNePAePIeRUeSA
eSAReSHAeSHEeSHIDeSHUeSHULeSIGeSUHUReTAReTUeUfU UeU2eUDeUMUM TIMES PAeUReUR2eUSHeZIcKA2
dCROSSING KA2cKABcKAD2cKAD3cKAD4cKAD5dOVER KAD5cKAKdTIMES IGI GUNUcKALdCROSSING KALdTIMES BADcKAM2
cKAM4cKAP ELAMITEcKASKALdLAGAB TIMES U OVER LAGAB TIMES U
dOVER KASKAL LAGAB TIMES U OVER LAGAB TIMES UcKESH2cKIdTIMES BADeUeUDcKIDcKINcKISALcKISHcKISIM5
dOVER KISIM5cKUdOVER HI TIMES ASH2 KU OVER HI TIMES ASH2cKU3cKU4dVARIANT FORMcKU7cKULdGUNUcKUNcKUR
dOPPOSING KURcKUSHU2cKWU318cLAcLAGABdSQUAREDdTIMES AfPLUS DA PLUS HAgGARgLALeALeANeASH ZIDA TENU
eBADeBIeDAReENeGAeGAReGIeGUDfPLUS GUDeHAeHALeHI TIMES NUNeIGI GUNUeIMfPLUS HAgLUeKIeKINeKU3eKUL
fPLUS HI PLUS AeLAGABeLISHeLUeLULeMEfPLUS ENeMUSHeNEeSHE PLUS SUMeSHITA PLUS GISH PLUS ERIN2hTENU
eSHU2fPLUS SHU2eSUMeTAGeTAK4eTE PLUS A PLUS SU PLUS NAeUfPLUS AgU PLUS UeU2 PLUS ASHeUDeUSH
eZU OVER ZUcLAGARdGUNUeOVER LAGAR GUNU SHEdTIMES SHEfPLUS SUMcLAHSHUcLAK-003cLAK-021cLAK-025
cLAK-030cLAK-050cLAK-051cLAK-062cLAK-079 OVER LAK-079 GUNUcLAK-080cLAK-081 OVER LAK-081cLAK-092
cLAK-130cLAK-142cLAK-210cLAK-219cLAK-220cLAK-225cLAK-228cLAK-238cLAK-265cLAK-266cLAK-343cLAK-347
cLAK-348cLAK-383cLAK-384cLAK-390cLAK-441cLAK-449dTIMES GUeIGIePAP PLUS LU3gPAP PLUS LU3eU2 PLUS BA
cLAK-450cLAK-457cLAK-470cLAK-483cLAK-490cLAK-492cLAK-493cLAK-495cLAK-550cLAK-608cLAK-617dTIMES ASH
eBADeDUN3 GUNU GUNUeKU3eLAeTAReTEeU2eUDeURUDAcLAK-636cLAK-648dTIMES DUBeGAeIGIfGUNUeNI
ePAP PLUS PAP PLUS LU3eSHESH PLUS KIeUDeURUDAcLAK-724cLAK-749cLALdTIMES LALcLAMdTIMES KURfPLUS RU
cLIcLILcLIMMU2cLISHcLUdTIMES BADcLU2dCROSSING LU2dGUNU TIMES ASHdOPPOSING LU2dSHESHIGeTIMES BAD
dSQUAREDdTENUdTIMES ALeBADeDISHeESH2fPLUS LALfTENUeGAN2 TENUeHALeHI TIMES BADeIMeKAD2eKAD3
fPLUS ASHeKIeLA PLUS ASHeLAGABeME PLUS ENeNEeNUePAPfPLUS PAP PLUS LU3eSHUeSI PLUS ASHeSIK2 PLUS BU
eTAK4eTUG2cLU3cLUGALdOPPOSING LUGALdOVER LUGALdSHESHIGcLUHcLULcLUMdOVER LUMfGAR OVER GARcMAdGUNU
dTIMES TAK4cMA2cMAHcMARcMASHcMASH2cMEcMEScMESHcMIdPLUS ZA7cMINcMUdOVER MUcMUGdGUNUcMUNSUBcMURGU2
cMUSHdCROSSING MUSHdOVER MUSHfTIMES A PLUS NAgGAgKAKdTIMES AeKUReZAcMUSH3dGUNUdTIMES AfPLUS DIeDI
eZAcNAcNA2cNA4cNAGAdINVERTEDdOPPOSING NAGAdTIMES SHU TENUcNAGARcNAMdNUTILLUcNAM2cNEdSHESHIG
dTIMES AeUDcNIdTIMES EcNI2cNIMdTIMES GAN2 TENUeGAR PLUS GAN2 TENUcNINcNIN9cNINDA2dTIMES ANeASH
fPLUS ASHeBALeDIM GUNUeGIeGISHeGUDeGULeHIeKESH2eLAK-050eMASHeME PLUS GAN2 TENUeNEeNUNePAP PLUS PAP
eSHEfPLUS A ANgASHhPLUS ASHeUfPLUS UeU2 PLUS ASHeURUDAeUSHcNISAGcNUcNU11dOVER NU11 BUR OVER BUR
dROTATED NINETY DEGREESdTENUcNUNdCROSSING NUNfLAGAR OVER LAGARdLAGAR TIMES GARfMASHfSAL
gOVER NUN LAGAR TIMES SALfUSHdOVER NUNdTENUcNUNUZdAB2 TIMES ASHGABfBIfDUGfGUDfIGI GUNUfKAD3fLAfNE
fSILA3fU2dKISIM5 TIMES BIgUcPAcPADcPANcPAPcPESH2dASTERISKcPIdCROSSING PIdTIMES AeABeBIeBUeEeIeIBeU
eU2cPIR2cPIRIGdOPPOSING PIRIGdTIMES KALeUDeZAcRAcRABcRIcRUcSAcSAGdGUNUeTIMES HAdNUTILLUdOVER SAG
dTIMES AeDUeDUBeENeHAeIGI GUNUeKAKeKUReLUMeMIeNUNeSALeSHE AT LEFTeSHIDeTABeTAK4eU2eUBeUMeUReUSH
cSALdLAGAB TIMES ASH2cSANGA2cSARcSHAcSHA3dTIMES AeBADeGISHeNEeSHU2eTUReUfPLUS AcSHA6dTENUcSHAB6
cSHAR2cSHEdHUdOVER SHEfGAD OVER GAD GAR OVER GARfTAB OVER TAB GAR OVER GARdPLUS HUB2eNAM2eSAR
cSHEG9cSHENcSHESHcSHESH2cSHESHLAMcSHIDdTIMES AeIMcSHIMdTIMES AeBALeBULUGeDINeGAReIGIfGUNUeKUSHU2
eLULeMUGeSALcSHINIGcSHIRdOVER SHIR BUR OVER BURdTENUcSHITAcSHUdOVER INVERTED SHUcSHU2
dPLUS DUG TIMES NIeE2 TIMES ANcSHUBURcSIdGUNUdTIMES TAK4cSIGcSIG4dOVER SIG4 SHU2cSIK2cSILA3cSU
dOVER SUcSUDcSUD2cSUHURcSUMcSUMASHcSURcSUR9cTAdASTERISKdGUNUdTIMES HIeMIcTAB
dOVER TAB NI OVER NI DISH OVER DISHdSQUAREDcTAGdTIMES BIeGUDeSHEeSHUeTUG2eUDcTAK4dPLUS SAGcTARcTE
dGUNUcTIdTENUcTI2cTILcTIRdOVER TIRfGAD OVER GAD GAR OVER GARdTIMES TAK4cTUcTUG2cTUKcTUM
dTIMES GAN2 TENUeTHREE DISHcTURdOVER TUR ZA OVER ZAcUdGUDdOVER U PA OVER PA GAR OVER GAR
fSUR OVER SURfU REVERSED OVER U REVERSEDdUeUcU2cUBcUDdGUNUdKUSHU2dSHESHIGeTIMES BADdTIMES BADeMI
eU PLUS U PLUS UjGUNUcUDUGcUMdTIMES LAGABeMEfPLUS DAeSHA3eUcUMBINcUMUMdTIMES KASKALePAcUNdGUNUcUR
dCROSSING URdSHESHIGcUR2dINVERTEDdTIMES A PLUS HAgNAeALeHAeNUNeU2fPLUS ASHgBIeUDcUR4cURIcURI3cURU
dTIMES AeASHGABeBAReDARA3eDUNeGAeGALeGAN2 TENUeGAReGUeHAeIGIeIMeISHeKIeLAK-668eLU3eLUMeMINePAeSHE
eSIG4eTUeU PLUS GUDeUDeURUDAcURUDAdTIMES UcUSHdTIMES AeKUeKUReTAK4cUSH2cUSHUMXcUSHXcUTUKIcUZ3
dTIMES KASKALcUZUcZAdSQUARED TIMES KURdTENUcZA7cZAGcZAMXcZE2cZIdOVER ZIcZI3cZIBdKABA TENUcZIGcZIZ2
cZUdOVER ZU PLUS SARcZU5dTIMES AeTHREE DISH TENUcZUBURcZUMaCUP ON BLACK SQUAREbWITH STRAWaCUPCAKE
aCUPIDOaCURLING STONEaCURLY BRACKET EXTENSIONbLOGICAL ANDcORbLOOPaCURRENCY EXCHANGEbSIGN
aCURRY AND RICEaCURVED STEM PARAGRAPH SIGN ORNAMENTaCUSTARDaCUSTOMSaCUT OF MEATaCYCLONE
aCYLINDRICITYaCYPRIOT SYLLABLE AcEcIcJAcJOcKAcKEcKIcKOcKUcLAcLEcLIcLOcLUcMAcMEcMIcMOcMUcNAcNEcNI
cNOcNUcOcPAcPEcPIcPOcPUcRAcREcRIcROcRUcSAcSEcSIcSOcSUcTAcTEcTIcTOcTUcUcWAcWEcWIcWOcXAcXEcZAcZO
aCYPRO-MINOAN SIGN CM001cCM002cCM004cCM005cCM006cCM007cCM008cCM009cCM010cCM011cCM012cCM012BcCM013
cCM015cCM017cCM019cCM021cCM023cCM024cCM025cCM026cCM027cCM028cCM029cCM030cCM033cCM034cCM035cCM036
cCM037cCM038cCM039cCM040cCM041cCM044cCM046cCM047cCM049cCM050cCM051cCM052cCM053cCM054cCM055cCM056
cCM058cCM059cCM060cCM061cCM062cCM063cCM064cCM066cCM067cCM068cCM069cCM070cCM071cCM072cCM073cCM074
cCM075cCM075BcCM076cCM078cCM079cCM080cCM081cCM082cCM083cCM084cCM085cCM086cCM087cCM088cCM089cCM090
cCM091cCM092cCM094cCM095cCM096cCM097cCM098cCM099cCM100cCM101cCM102cCM103cCM104cCM105cCM107cCM108
cCM109cCM110cCM112cCM114cCM301cCM302aCYRILLIC CAPITAL LETTER AeWITH BREVEfDIAERESISdABKHASIAN CHE
fWITH DESCENDEReDZEeHAdALEUT KAdBARRED OfWITH DIAERESISdBASHKIR KAdBEdBIG YUSdBINOCULAR O
dBLENDED YUSdBROAD OMEGAdBYELORUSSIAN-UKRAINIAN IdCCHEdCHEeWITH DESCENDERfDIAERESIS
fVERTICAL STROKEdCLOSED LITTLE YUSdCROSSED OdDCHEdDEdDJEdDJERVdDOUBLE MONOCULAR OeOdDWEdDZEdDZELO
dDZHEdDZWEdDZZEdDZZHEdEeWITH DIAERESISdEFdELeWITH DESCENDERfHOOKfMIDDLE HOOKfTAILdEMeWITH TAILdEN
eWITH DESCENDERfHOOKfLEFT HOOKfMIDDLE HOOKfTAILdEReWITH TICKdESeWITH DESCENDERdFITAdGHE
eWITH DESCENDERfMIDDLE HOOKfSTROKEgAND HOOKfUPTURNdGJEdHAeWITH DESCENDERfHOOKfSTROKEdHARD SIGNdHWE
dIeWITH DIAERESISfGRAVEfMACRONdIEeWITH BREVEfGRAVEdIOdIOTAdIOTIFIED AeBIG YUSeCLOSED LITTLE YUSeE
eLITTLE YUSeYATdIZHITSAeWITH DOUBLE GRAVE ACCENTdJEdKAeWITH DESCENDERfHOOKfSTROKEfVERTICAL STROKE
dKHAKASSIAN CHEdKJEdKOMI DEeDJEeDZJEeLJEeNJEeSJEeTJEeZJEdKOPPAdKSIdLHAdLITTLE YUSdLJEdMONOCULAR O
dMONOGRAPH UKdNEUTRAL YERdNJEdOeWITH DIAERESISdOMEGAeWITH TITLOdOTdPEeWITH DESCENDERfMIDDLE HOOK
dPSIdQAdREVERSED DZEeTSEeYUeZEdRHAdROUND OMEGAdSCHWAeWITH DIAERESISdSEMISOFT SIGNdSHAdSHCHAdSHHA
eWITH DESCENDERdSHORT IfWITH TAILeUdSHWEdSOFT DEeELeEMeSIGNdSTRAIGHT UfWITH STROKEdTCHEdTE
eWITH DESCENDERfMIDDLE HOOKdTSEdTSHEdTSSEdTSWEdTWEdUeWITH DIAERESISfDOUBLE ACUTEfMACRONdUK
dUKRAINIAN IEdVEdWEdYAdYAEdYATdYERUeWITH BACK YERfDIAERESISdYIdYNdYUdZEeWITH DESCENDERfDIAERESIS
dZEMLYAdZHEeWITH BREVEfDESCENDERfDIAERESISdZHWEcLIGATURE A IEdEN GHEdTE TSEbKAVYKA
bLETTER MULTIOCULAR OcPALOCHKAcSMALL CAPITAL ELbPAYEROKbSMALL LETTER AeWITH BREVEfDIAERESIS
dABKHASIAN CHEfWITH DESCENDEReDZEeHAdALEUT KAdBARRED OfWITH DIAERESISdBASHKIR KAdBEdBIG YUS
dBINOCULAR OdBLENDED YUSdBROAD OMEGAdBYELORUSSIAN-UKRAINIAN IdCCHEdCHEeWITH DESCENDERfDIAERESIS
fVERTICAL STROKEdCLOSED LITTLE YUSdCROSSED OdDCHEdDEdDJEdDJERVdDOUBLE MONOCULAR OeOdDWEdDZEdDZELO
dDZHEdDZWEdDZZEdDZZHEdEeWITH DIAERESISdEFdELeWITH DESCENDERfHOOKfMIDDLE HOOKfTAILdEMeWITH TAILdEN
eWITH DESCENDERfHOOKfLEFT HOOKfMIDDLE HOOKfTAILdEReWITH TICKdESeWITH DESCENDERdFITAdGHE
eWITH DESCENDERfMIDDLE HOOKfSTROKEgAND HOOKfUPTURNdGJEdHAeWITH DESCENDERfHOOKfSTROKEdHARD SIGNdHWE
dIeWITH DIAERESISfGRAVEfMACRONdIEeWITH BREVEfGRAVEdIOdIOTAdIOTIFIED AeBIG YUSeCLOSED LITTLE YUSeE
eLITTLE YUSeYATdIZHITSAeWITH DOUBLE GRAVE ACCENTdJEdKAeWITH DESCENDERfHOOKfSTROKEfVERTICAL STROKE
dKHAKASSIAN CHEdKJEdKOMI DEeDJEeDZJEeLJEeNJEeSJEeTJEeZJEdKOPPAdKSIdLHAdLITTLE YUSdLJE
dLONG-LEGGED DEdMONOCULAR OdMONOGRAPH UKdNARROW OdNEUTRAL YERdNJEdOeWITH DIAERESISdOMEGA
eWITH TITLOdOTdPALOCHKAdPEeWITH DESCENDERfMIDDLE HOOKdPSIdQAdREVERSED DZEeTSEeYUeZEdRHA
dROUND OMEGAdROUNDED VEdSCHWAeWITH DIAERESISdSEMISOFT SIGNdSHAdSHCHAdSHHAeWITH DESCENDERdSHORT I
fWITH TAILeUdSHWEdSOFT DEeELeEMeSIGNdSTRAIGHT UfWITH STROKEdTALL HARD SIGNeTEeYATdTCHEdTE
eWITH DESCENDERfMIDDLE HOOKdTHREE-LEGGED TEdTSEdTSHEdTSSEdTSWEdTWEdUeWITH DIAERESISfDOUBLE ACUTE
fMACRONdUKdUKRAINIAN IEdUNBLENDED UKdVEdWEdWIDE ESdYAdYAEdYATdYERUeWITH BACK YERfDIAERESISdYIdYN
dYUdZEeWITH DESCENDERfDIAERESISdZEMLYAdZHEeWITH BREVEfDESCENDERfDIAERESISdZHWEcLIGATURE A IE
dEN GHEdTE TSEbTHOUSANDS SIGNaDAGGERbKNIFEbWITH LEFT GUARDcRIGHT GUARDaDALET SYMBOLaDANCERaDANGO
aDARK SHADEbSUNGLASSESaDASH SYMBOLbWITH LEFT UPTURNaDASHED LOW LINEbOVERLINE
bTRIANGLE-HEADED RIGHTWARDS ARROWaDATA LINK ESCAPEaDC1aDC2aDC3aDC4aDCSaDEAF PERSONaDECIDUOUS TREE
aDECIMAL EXPONENT SYMBOLbSEPARATOR KEY SYMBOLaDECREASE FONT SIZE SYMBOLaDEERaDEGREE CELSIUS
bFAHRENHEITbSIGNaDELaDELETEaDELIVERY TRUCKaDELTA EQUAL TO
aDENTISTRY SYMBOL LIGHT DOWN AND HORIZONTALgWITH CIRCLEhTRIANGLEhWAVEdUP AND HORIZONTAL
gWITH CIRCLEhTRIANGLEhWAVEdVERTICAL AND BOTTOM LEFTgRIGHTfTOP LEFTgRIGHTfWAVEeWITH CIRCLEfTRIANGLE
aDEPARTMENT STOREaDERELICT HOUSE BUILDINGaDESCENDING NODEaDESERET CAPITAL LETTER AYdBEEdCHEEdDEE
dEFdELdEMdENdENGdERdESdESHdETHdEWdGAYdHdJEEdKAYdLONG AeAHeEeIeOeOOdOIdOWdPEEdSHORT AeAHeEeIeOeOO
dTEEdTHEEdVEEdWUdYEEdZEEdZHEEbSMALL LETTER AYdBEEdCHEEdDEEdEFdELdEMdENdENGdERdESdESHdETHdEWdGAYdH
dJEEdKAYdLONG AeAHeEeIeOeOOdOIdOWdPEEdSHORT AeAHeEeIeOeOOdTEEdTHEEdVEEdWUdYEEdZEEdZHEEaDESERT
bISLANDaDESKTOP COMPUTERbWINDOWaDEVANAGARI ABBREVIATION SIGNbACUTE ACCENTbCARETbDANDAbDIGIT EIGHT
cFIVEcFOURcNINEcONEcSEVENcSIXcTHREEcTWOcZERObDOUBLE DANDAbGAP FILLERbGRAVE ACCENTbHEADSTROKE
bJAIN OMbLETTER AcAAcAIcAUcAWcAYcBAcBBAcBHAcCAcCANDRA AdEdOcCHAcDAcDDAcDDDAcDDDHAcDDHAcDHAcEcFAcGA
cGGAcGHAcGHHAcGLOTTAL STOPcHAcHEAVY YAcIcIIcJAcJHAcJJAcKAcKHAcKHHAcLAcLLAcLLLAcMAcMARWARI DDAcNA
cNGAcNNAcNNNAcNYAcOcOEcOOEcPAcPHAcQAcRAcRHAcRRAcSAcSHAcSHORT AdEdOcSSAcTAcTHAcTTAcTTHAcUcUEcUUcUUE
cVAcVOCALIC LdLLdRdRRcYAcYYAcZAcZHAbOMbSIGN ANUSVARAcAVAGRAHAcCANDRABINDUdAVAGRAHAdTHREEdTWO
dVIRAMAcDOUBLE CANDRABINDU VIRAMAcHIGH SPACING DOTcINVERTED CANDRABINDUcNUKTAcPUSHPIKAcSIDDHAM
cSPACING CANDRABINDUcVIRAMAcVISARGAbSTRESS SIGN ANUDATTAdUDATTAbVOWEL SIGN AAdAIdAUdAWdAYdCANDRA E
eLONG EeOdEdIdIIdOdOEdOOEdPRISHTHAMATRA EdSHORT EeOdUdUEdUUdUUEdVOCALIC LeLLeReRR
aDEVICE CONTROL FOURcONEcSTRINGcTHREEcTWOaDIAERESISaDIAMETER SIGNaDIAMOND OPERATOR
bSHAPE WITH A DOT INSIDEbTARGETbWITH BOTTOM HALF BLACKcLEFT HALF BLACKcRIGHT HALF BLACK
cTOP HALF BLACKaDIE FACE-1bFACE-2bFACE-3bFACE-4bFACE-5bFACE-6aDIESEL LOCOMOTIVEaDIFFERENCE BETWEEN
aDIGIT EIGHTcCOMMAcFULL STOPbFIVEcCOMMAcFULL STOPbFOURcCOMMAcFULL STOPbNINEcCOMMAcFULL STOPbONE
cCOMMAcFULL STOPbSEVENcCOMMAcFULL STOPbSIXcCOMMAcFULL STOPbTHREEcCOMMAcFULL STOPbTWOcCOMMA
cFULL STOPbZEROcCOMMAcFULL STOPaDIGRAM FOR EARTHcEARTHLY HEAVENdHUMANcGREATER YANGdYIN
cHEAVENLY EARTHcHUMAN EARTHcLESSER YANGdYINaDIMENSION ORIGIN
aDINGBAT CIRCLED SANS-SERIF DIGIT EIGHTeFIVEeFOUReNINEeONEeSEVENeSIXeTHREEeTWOeZEROdNUMBER TEN
bNEGATIVE CIRCLED DIGIT EIGHTeFIVEeFOUReNINEeONEeSEVENeSIXeTHREEeTWOdNUMBER TEN
dSANS-SERIF DIGIT EIGHTfFIVEfFOURfNINEfONEfSEVENfSIXfTHREEfTWOfZEROeNUMBER TEN
aDIRECT CURRENT SYMBOL FORM TWObHITaDISABLED CARaDISAPPOINTED BUT RELIEVED FACEbFACE
aDISCONTINUOUS UNDERLINE SYMBOLaDISGUISED FACEaDITTO MARKaDIVES AKURU DIGIT EIGHTdFIVEdFOURdNINE
dONEdSEVENdSIXdTHREEdTWOdZEROcDOUBLE DANDAcEND OF TEXT MARKcGAP FILLERcINITIAL RAcLETTER AdAAdBA
dBHAdCAdCHAdDAdDDAdDDHAdDHAdEdGAdGHAdHAdIdIIdJAdKAdKHAdLAdLLAdMAdNAdNGAdNNAdNYAdOdPAdPHAdRAdSAdSHA
dSSAdTAdTHAdTTAdUdUUdVAdYAdYYAdZAcMEDIAL RAdYAcPREFIXED NASAL SIGNcSIGN ANUSVARAdCANDRABINDU
dHALANTAdNUKTAcVIRAMAcVOWEL SIGN AAeAIeEeIeIIeOeUeUUaDIVIDESaDIVING MASKaDIVISION SIGNbSLASHbTIMES
aDIVORCE SYMBOLaDIYA LAMPaDIZZY FACEbSYMBOLaDLEaDNA DOUBLE HELIXaDO NOT LITTER SYMBOLaDOCUMENT
bWITH PICTUREcTEXTdAND PICTUREaDODOaDOES NOT CONTAIN AS MEMBEReNORMAL SUBGROUPgOR EQUALcDIVIDE
dWITH REVERSED NEGATION SLASHcFORCEcPRECEDEdOR EQUALcPROVEcSUCCEEDdOR EQUALaDOGbFACE
aDOGRA ABBREVIATION SIGNbLETTER AcAAcAIcAUcBAcBHAcCAcCHAcDAcDDAcDDHAcDHAcEcGAcGHAcHAcIcIIcJAcJHA
cKAcKHAcLAcMAcNAcNGAcNNAcNYAcOcPAcPHAcRAcRRAcSAcSHAcSSAcTAcTHAcTTAcTTHAcUcUUcVAcYAbSIGN ANUSVARA
cNUKTAcVIRAMAcVISARGAbVOWEL SIGN AAdAIdAUdEdIdIIdOdUdUUdVOCALIC ReRRaDOLLAR SIGNaDOLPHIN
aDOMINO TILE HORIZONTAL BACKcHORIZONTAL-00-00cHORIZONTAL-00-01cHORIZONTAL-00-02cHORIZONTAL-00-03
cHORIZONTAL-00-04cHORIZONTAL-00-05cHORIZONTAL-00-06cHORIZONTAL-01-00cHORIZONTAL-01-01
cHORIZONTAL-01-02cHORIZONTAL-01-03cHORIZONTAL-01-04cHORIZONTAL-01-05cHORIZONTAL-01-06
cHORIZONTAL-02-00cHORIZONTAL-02-01cHORIZONTAL-02-02cHORIZONTAL-02-03cHORIZONTAL-02-04
cHORIZONTAL-02-05cHORIZONTAL-02-06cHORIZONTAL-03-00cHORIZONTAL-03-01cHORIZONTAL-03-02
cHORIZONTAL-03-03cHORIZONTAL-03-04cHORIZONTAL-03-05cHORIZONTAL-03-06cHORIZONTAL-04-00
cHORIZONTAL-04-01cHORIZONTAL-04-02cHORIZONTAL-04-03cHORIZONTAL-04-04cHORIZONTAL-04-05
cHORIZONTAL-04-06cHORIZONTAL-05-00cHORIZONTAL-05-01cHORIZONTAL-05-02cHORIZONTAL-05-03
cHORIZONTAL-05-04cHORIZONTAL-05-05cHORIZONTAL-05-06cHORIZONTAL-06-00cHORIZONTAL-06-01
cHORIZONTAL-06-02cHORIZONTAL-06-03cHORIZONTAL-06-04cHORIZONTAL-06-05cHORIZONTAL-06-06
cVERTICAL BACKcVERTICAL-00-00cVERTICAL-00-01cVERTICAL-00-02cVERTICAL-00-03cVERTICAL-00-04
cVERTICAL-00-05cVERTICAL-00-06cVERTICAL-01-00cVERTICAL-01-01cVERTICAL-01-02cVERTICAL-01-03
cVERTICAL-01-04cVERTICAL-01-05cVERTICAL-01-06cVERTICAL-02-00cVERTICAL-02-01cVERTICAL-02-02
cVERTICAL-02-03cVERTICAL-02-04cVERTICAL-02-05cVERTICAL-02-06cVERTICAL-03-00cVERTICAL-03-01
cVERTICAL-03-02cVERTICAL-03-03cVERTICAL-03-04cVERTICAL-03-05cVERTICAL-03-06cVERTICAL-04-00
cVERTICAL-04-01cVERTICAL-04-02cVERTICAL-04-03cVERTICAL-04-04cVERTICAL-04-05cVERTICAL-04-06
cVERTICAL-05-00cVERTICAL-05-01cVERTICAL-05-02cVERTICAL-05-03cVERTICAL-05-04cVERTICAL-05-05
cVERTICAL-05-06cVERTICAL-06-00cVERTICAL-06-01cVERTICAL-06-02cVERTICAL-06-03cVERTICAL-06-04
cVERTICAL-06-05cVERTICAL-06-06aDONG SIGNaDOORaDOT ABOVEbMINUSbOPERATORbPLUSaDOTTED CIRCLEbCROSS
bFENCEbLINE FACEbOBELOSbRIGHT-POINTING ANGLEbSOLIDUSbSQUAREbTRANSPOSITION MARKER
aDOUBLE ACUTE ACCENTbCIRCLED DIGIT EIGHTdFIVEdFOURdNINEdONEdSEVENdSIXdTHREEdTWOcNUMBER TEN
bCOLON EQUALbCURLY LOOPbDAGGERbDOWN TACKbEXCLAMATION MARKbHIGH-REVERSED-9 QUOTATION MARKbHYPHEN
bINTEGRALbINTERSECTIONbLEFT ARC GREATER-THAN BRACKETbLOGICAL ANDcORbLOW LINEbLOW-9 QUOTATION MARK
bLOW-REVERSED-9 QUOTATION MARKbNESTED GREATER-THANcLESS-THANdWITH UNDERBARbOBLIQUE HYPHENbPLUS
bPRECEDESbPRIMEcQUOTATION MARKbQUESTION MARKbRIGHT ARC LESS-THAN BRACKETbSOLIDUS OPERATOR
bSQUARE INTERSECTIONcUNIONbSTACKED COMMAbSTROKE NOT SIGNbSUBSETbSUCCEEDSbSUPERSETbSUSPENSION MARK
bUNIONbUP TACKbVERTICAL BARdDOUBLE LEFT TURNSTILEeRIGHT TURNSTILEdLEFT TURNSTILEcLINE
bWAVY OVERLINEaDOUBLE-ENDED MULTIMAPaDOUBLE-LINE EQUAL TO OR GREATER-THANeLESS-THAN
bSLANTED EQUAL TO OR GREATER-THANfLESS-THANcGREATER-THAN OR EQUAL TOcLESS-THAN OR EQUAL TO
aDOUBLE-STRUCK CAPITAL CcGAMMAcHcNcPcPIcQcRcZbITALIC CAPITAL DcSMALL DdEdIdJbN-ARY SUMMATION
bSMALL GAMMAcPIaDOUBLED FEMALE SIGNbMALE SIGNbSYMBOLaDOUGHNUTaDOVE OF PEACEaDOWN ARROWHEAD
bFISH TAILbRIGHT DIAGONAL ELLIPSISbTACKcWITH CIRCLE BELOWaDOWN-POINTING RED TRIANGLE
bSMALL RED TRIANGLEbTRIANGLE WITH LEFT HALF BLACKdRIGHT HALF BLACKaDOWNWARD FACING HOOKdWITH DOT
cNOTCHED HOOKeWITH DOTaDOWNWARDS ANCORAbARROWcAND RIGHT ONE EIGHTH BLOCKcFROM BAR
cLEFTWARDS OF UPWARDS ARROWcTO BARcWITH CORNER LEFTWARDSdDOUBLE STROKEdEQUILATERAL ARROWHEAD
dHORIZONTAL STROKEdLARGE TRIANGLE ARROWHEADdMEDIUM TRIANGLE ARROWHEADdNOTCHED TAIL
dSMALL EQUILATERAL ARROWHEADeTRIANGLE ARROWHEADdTIP LEFTWARDSeRIGHTWARDSbBLACK ARROW
cCIRCLED WHITE ARROWbCOMPRESSED ARROWbDASHED ARROWbDOUBLE ARROWbFINGER-POST ARROW
bHARPOON WITH BARB LEFT BESIDE DOWNWARDS HARPOON WITH BARB RIGHTgUPWARDS HARPOON WITH BARB RIGHT
fFROM BARfTO BAReLEFTWARDSeRIGHT FROM BARfTO BAReRIGHTWARDSbHEAVY ARROWcCOMPRESSED ARROW
bPAIRED ARROWSbQUADRUPLE ARROWbROCKETbSANS-SERIF ARROWbSQUARED ARROWbTRIANGLE ARROWHEAD
bTRIANGLE-HEADED ARROWdLEFTWARDS OF UPWARDS TRIANGLE-HEADED ARROWdTO BARdWITH BOLD SHAFT
eDOUBLE HORIZONTAL STROKEeHEAVY SHAFTeLONG TIP LEFTWARDSgRIGHTWARDSeMEDIUM SHAFTeNARROW SHAFT
eVERY HEAVY SHAFTcDASHED ARROWcPAIRED ARROWScZIGZAG ARROWbTRIPLE ARROWbTWO HEADED ARROW
bTWO-HEADED ARROW WITH TRIANGLE ARROWHEADSbWHITE ARROWdWITHIN TRIANGLE ARROWHEADbZIGZAG ARROW
aDRACHMA SIGNaDRAFTING POINT RIGHTWARDS ARROWaDRAGONbFACEaDRESSaDRIVE SLOW SIGNaDROMEDARY CAMEL
aDROOLING FACEaDROP OF BLOODaDROPLETaDRUM WITH DRUMSTICKSaDUCKaDUMPLING
aDUPLOYAN AFFIX ATTACHED E HOOKdI HOOKdLEFT-TO-RIGHT SECANTdSECANTdTAILdTANGENTeHOOKcHIGH ACUTE
dCIRCLEdDOTdGRAVEdLINEdLONG GRAVEdTIGHT ACUTEdVERTICALeSECANTdWAVEcLEFT HORIZONTAL SECANT
cLOW ACUTEdARROWdCIRCLEdDOTdGRAVEdLINEdLONG GRAVEdTIGHT ACUTEdVERTICALeSECANTdWAVE
cMID HORIZONTAL SECANTdVERTICAL SECANTcRIGHT HORIZONTAL SECANTbDOUBLE MARKbLETTER AcAOUcBcDdScDHcE
cEEcEUcFdNcGdR ScHcHLcIcIEcJdMeSdNeSdSeWITH DOTdWITH DOTeDOTS INSIDE AND ABOVEcKdMdR ScKKcLcLH
cLONG IdUcMdNeSdSdWITH DOTcNdMeSdSdWITH DOTcNASAL AdIdOdUcOcOAcOOHcOUcOWcPdNcPERNIN AMdANcRdScRH
cROMANIAN IdUcSdJeSdKeRdMdNdPeRdSdTeRdWITH DOTfBELOWcSHORT IcSLOAN ANdDHdEEdEHdENdJdONdOWdUcTdR S
dScTHcUdNcUHcUIcVcVOCALIC McWdRcWAcWEIcWHcWIcWOcWOWcXcXWcYEbPUNCTUATION CHINOOK FULL STOP
bSIGN O WITH CROSSbTHICK LETTER SELECTORaDVDaE-MAIL SYMBOLaEAGLEaEARbOF MAIZEcRICE
bWITH HEARING AIDaEARTHbGLOBE AMERICAScASIA-AUSTRALIAcEUROPE-AFRICAbGROUNDaEAST SYRIAC CROSS
aEDITORIAL CORONISaEGGaEGYPTIAN HIEROGLYPH A001cA002cA003cA004cA005cA005AcA006cA006AcA006BcA007
cA008cA009cA010cA011cA012cA013cA014cA014AcA015cA016cA017cA017AcA018cA019cA020cA021cA022cA023cA024
cA025cA026cA027cA028cA029cA030cA031cA032cA032AcA033cA034cA035cA036cA037cA038cA039cA040cA040AcA041
cA042cA042AcA043cA043AcA044cA045cA045AcA046cA047cA048cA049cA050cA051cA052cA053cA054cA055cA056cA057
cA058cA059cA060cA061cA062cA063cA064cA065cA066cA067cA068cA069cA070cAA001cAA002cAA003cAA004cAA005
cAA006cAA007cAA007AcAA007BcAA008cAA009cAA010cAA011cAA012cAA013cAA014cAA015cAA016cAA017cAA018cAA019
cAA020cAA021cAA022cAA023cAA024cAA025cAA026cAA027cAA028cAA029cAA030cAA031cAA032cB001cB002cB003cB004
cB005cB005AcB006cB007cB008cB009cBEGIN SEGMENTcC001cC002cC002AcC002BcC002CcC003cC004cC005cC006cC007
cC008cC009cC010cC010AcC011cC012cC013cC014cC015cC016cC017cC018cC019cC020cC021cC022cC023cC024cD001
cD002cD003cD004cD005cD006cD007cD008cD008AcD009cD010cD011cD012cD013cD014cD015cD016cD017cD018cD019
cD020cD021cD022cD023cD024cD025cD026cD027cD027AcD028cD029cD030cD031cD031AcD032cD033cD034cD034AcD035
cD036cD037cD038cD039cD040cD041cD042cD043cD044cD045cD046cD046AcD047cD048cD048AcD049cD050cD050A
cD050BcD050CcD050DcD050EcD050FcD050GcD050HcD050IcD051cD052cD052AcD053cD054cD054AcD055cD056cD057
cD058cD059cD060cD061cD062cD063cD064cD065cD066cD067cD067AcD067BcD067CcD067DcD067EcD067FcD067GcD067H
cE001cE002cE003cE004cE005cE006cE007cE008cE008AcE009cE009AcE010cE011cE012cE013cE014cE015cE016cE016A
cE017cE017AcE018cE019cE020cE020AcE021cE022cE023cE024cE025cE026cE027cE028cE028AcE029cE030cE031cE032
cE033cE034cE034AcE036cE037cE038cEND SEGMENTcF001cF001AcF002cF003cF004cF005cF006cF007cF008cF009
cF010cF011cF012cF013cF013AcF014cF015cF016cF017cF018cF019cF020cF021cF021AcF022cF023cF024cF025cF026
cF027cF028cF029cF030cF031cF031AcF032cF033cF034cF035cF036cF037cF037AcF038cF038AcF039cF040cF041cF042
cF043cF044cF045cF045AcF046cF046AcF047cF047AcF048cF049cF050cF051cF051AcF051BcF051CcF052cF053cG001
cG002cG003cG004cG005cG006cG006AcG007cG007AcG007BcG008cG009cG010cG011cG011AcG012cG013cG014cG015
cG016cG017cG018cG019cG020cG020AcG021cG022cG023cG024cG025cG026cG026AcG027cG028cG029cG030cG031cG032
cG033cG034cG035cG036cG036AcG037cG037AcG038cG039cG040cG041cG042cG043cG043AcG044cG045cG045AcG046
cG047cG048cG049cG050cG051cG052cG053cG054cH001cH002cH003cH004cH005cH006cH006AcH007cH008
cHORIZONTAL JOINERcI001cI002cI003cI004cI005cI005AcI006cI007cI008cI009cI009AcI010cI010AcI011cI011A
cI012cI013cI014cI015cINSERT AT BOTTOM ENDfSTARTeTOP ENDfSTARTcK001cK002cK003cK004cK005cK006cK007
cK008cL001cL002cL002AcL003cL004cL005cL006cL006AcL007cL008cM001cM001AcM001BcM002cM003cM003AcM004
cM005cM006cM007cM008cM009cM010cM010AcM011cM012cM012AcM012BcM012CcM012DcM012EcM012FcM012GcM012H
cM013cM014cM015cM015AcM016cM016AcM017cM017AcM018cM019cM020cM021cM022cM022AcM023cM024cM024AcM025
cM026cM027cM028cM028AcM029cM030cM031cM031AcM032cM033cM033AcM033BcM034cM035cM036cM037cM038cM039
cM040cM040AcM041cM042cM043cM044cN001cN002cN003cN004cN005cN006cN007cN008cN009cN010cN011cN012cN013
cN014cN015cN016cN017cN018cN018AcN018BcN019cN020cN021cN022cN023cN024cN025cN025AcN026cN027cN028cN029
cN030cN031cN032cN033cN033AcN034cN034AcN035cN035AcN036cN037cN037AcN038cN039cN040cN041cN042cNL001
cNL002cNL003cNL004cNL005cNL005AcNL006cNL007cNL008cNL009cNL010cNL011cNL012cNL013cNL014cNL015cNL016
cNL017cNL017AcNL018cNL019cNL020cNU001cNU002cNU003cNU004cNU005cNU006cNU007cNU008cNU009cNU010cNU010A
cNU011cNU011AcNU012cNU013cNU014cNU015cNU016cNU017cNU018cNU018AcNU019cNU020cNU021cNU022cNU022AcO001
cO001AcO002cO003cO004cO005cO005AcO006cO006AcO006BcO006CcO006DcO006EcO006FcO007cO008cO009cO010
cO010AcO010BcO010CcO011cO012cO013cO014cO015cO016cO017cO018cO019cO019AcO020cO020AcO021cO022cO023
cO024cO024AcO025cO025AcO026cO027cO028cO029cO029AcO030cO030AcO031cO032cO033cO033AcO034cO035cO036
cO036AcO036BcO036CcO036DcO037cO038cO039cO040cO041cO042cO043cO044cO045cO046cO047cO048cO049cO050
cO050AcO050BcO051cOVERLAY MIDDLEcP001cP001AcP002cP003cP003AcP004cP005cP006cP007cP008cP009cP010
cP011cQ001cQ002cQ003cQ004cQ005cQ006cQ007cR001cR002cR002AcR003cR003AcR003BcR004cR005cR006cR007cR008
cR009cR010cR010AcR011cR012cR013cR014cR015cR016cR016AcR017cR018cR019cR020cR021cR022cR023cR024cR025
cR026cR027cR028cR029cS001cS002cS002AcS003cS004cS005cS006cS006AcS007cS008cS009cS010cS011cS012cS013
cS014cS014AcS014BcS015cS016cS017cS017AcS018cS019cS020cS021cS022cS023cS024cS025cS026cS026AcS026B
cS027cS028cS029cS030cS031cS032cS033cS034cS035cS035AcS036cS037cS038cS039cS040cS041cS042cS043cS044
cS045cS046cT001cT002cT003cT003AcT004cT005cT006cT007cT007AcT008cT008AcT009cT009AcT010cT011cT011A
cT012cT013cT014cT015cT016cT016AcT017cT018cT019cT020cT021cT022cT023cT024cT025cT026cT027cT028cT029
cT030cT031cT032cT032AcT033cT033AcT034cT035cT036cU001cU002cU003cU004cU005cU006cU006AcU006BcU007
cU008cU009cU010cU011cU012cU013cU014cU015cU016cU017cU018cU019cU020cU021cU022cU023cU023AcU024cU025
cU026cU027cU028cU029cU029AcU030cU031cU032cU032AcU033cU034cU035cU036cU037cU038cU039cU040cU041cU042
cV001cV001AcV001BcV001CcV001DcV001EcV001FcV001GcV001HcV001IcV002cV002AcV003cV004cV005cV006cV007
cV007AcV007BcV008cV009cV010cV011cV011AcV011BcV011CcV012cV012AcV012BcV013cV014cV015cV016cV017cV018
cV019cV020cV020AcV020BcV020CcV020DcV020EcV020FcV020GcV020HcV020IcV020JcV020KcV020LcV021cV022cV023
cV023AcV024cV025cV026cV027cV028cV028AcV029cV029AcV030cV030AcV031cV031AcV032cV033cV033AcV034cV035
cV036cV037cV037AcV038cV039cV040cV040AcVERTICAL JOINERcW001cW002cW003cW003AcW004cW005cW006cW007
cW008cW009cW009AcW010cW010AcW011cW012cW013cW014cW014AcW015cW016cW017cW017AcW018cW018AcW019cW020
cW021cW022cW023cW024cW024AcW025cX001cX002cX003cX004cX004AcX004BcX005cX006cX006AcX007cX008cX008A
cY001cY001AcY002cY003cY004cY005cY006cY007cY008cZ001cZ002cZ002AcZ002BcZ002CcZ002DcZ003cZ003AcZ003B
cZ004cZ004AcZ005cZ005AcZ006cZ007cZ008cZ009cZ010cZ011cZ012cZ013cZ014cZ015cZ015AcZ015BcZ015CcZ015D
cZ015EcZ015FcZ015GcZ015HcZ015IcZ016cZ016AcZ016BcZ016CcZ016DcZ016EcZ016FcZ016GcZ016H
aEIGHT PETALLED OUTLINED BLACK FLORETTEbPOINTED BLACK STARcPINWHEEL STARcRECTILINEAR BLACK STAR
bSPOKED ASTERISKbTEARDROP-SPOKED PROPELLER ASTERISKaEIGHTH NOTEaEJECT SYMBOLaELBASAN LETTER AcBE
cCEcCHEcDEcDHEcEcEIcFEcGEcGHAMMAcGHEcGJEcHEcIcJEcKEcKHEcLEcLLEcMEcNAcNDEcNEcNJEcOcPEcQEcREcRREcSE
cSHEcTEcTHEcUcVEcXEcYcZEcZHEaELECTRIC ARROWbLIGHT BULBbPLUGbTORCHaELECTRICAL INTERSECTION
aELEMENT OFcOPENING DOWNWARDSdUPWARDScWITH DOT ABOVEdLONG HORIZONTAL STROKEdOVERBAR
dTWO HORIZONTAL STROKESdUNDERBARdVERTICAL BAR AT END OF HORIZONTAL STROKEaELEPHANTaELEVATORaELF
aELYMAIC LETTER ALEPHcAYINcBETHcDALETHcGIMELcHEcHETHcKAPHcLAMEDHcMEMcNUNcPEcQOPHcRESHcSADHEcSAMEKH
cSHINcTAWcTETHcWAWcYODHcZAYINbLIGATURE ZAYIN-YODHaEM DASHbQUADbSPACEaEMOJI COMPONENT BALD
cCURLY HAIRcRED HAIRcWHITE HAIRbMODIFIER FITZPATRICK TYPE-1-2dTYPE-3dTYPE-4dTYPE-5dTYPE-6
aEMPHASIS SYMBOLaEMPTY DOCUMENTbNESTbNOTEcPADcPAGEbPAGEbPAGESbSETcWITH LEFT ARROW ABOVEdOVERBAR
dRIGHT ARROW ABOVEdSMALL CIRCLE ABOVEaEN DASHbQUADbSPACEaEND OF GUARDED AREAcLINEcMEDIUMcPROOF
cPROTECTED AREAcSELECTED AREAcTEXTcTRANSMISSIONdBLOCKbWITH LEFTWARDS ARROW ABOVEaENQaENQUIRY
aENTER SYMBOLaENVELOPEbWITH DOWNWARDS ARROW ABOVEcLIGHTNINGaEOLaEOMaEOTaEPAaEQUAL AND PARALLEL TO
bTO BY DEFINITIONcOR GREATER-THANdLESS-THANdPRECEDESdSUCCEEDSaEQUALS COLONbSIGN
cABOVE LEFTWARDS ARROWdPLUS SIGNdRIGHTWARDS ARROWdTILDE OPERATORcAND SLANTED PARALLEL
fWITH TILDE ABOVEcWITH BUMPY ABOVEdDOT BELOWdINFINITY BELOWdTWO DOTS ABOVE AND TWO DOTS BELOW
bWITH ASTERISKaEQUIANGULAR TOaEQUIVALENT TObWITH FOUR DOTS ABOVEaERASE TO THE LEFTdRIGHT
aERIS FORM ONEcTWOaERROR-BARRED BLACK CIRCLEcDIAMONDcSQUAREbWHITE CIRCLEcDIAMONDcSQUAREaESAaESC
aESCAPEaESTIMATED SYMBOLaESTIMATESaETBaETHIOPIC COLONbCOMBINING GEMINATION AND VOWEL LENGTH MARK
dMARKcVOWEL LENGTH MARKbCOMMAbDIGIT EIGHTcFIVEcFOURcNINEcONEcSEVENcSIXcTHREEcTWObFULL STOP
bNUMBER EIGHTYcFIFTYcFORTYcHUNDREDcNINETYcSEVENTYcSIXTYcTENdTHOUSANDcTHIRTYcTWENTY
bPARAGRAPH SEPARATORbPREFACE COLONbQUESTION MARKbSECTION MARKbSEMICOLONbSYLLABLE BAcBAAcBBAcBBAA
cBBEcBBEEcBBIcBBOcBBUcBEcBEEcBIcBOcBOAcBUcBWAcBWEcBWEEcBWIcCAcCAAcCCAcCCAAcCCEcCCEEcCCHAcCCHAA
cCCHEcCCHEEcCCHHAcCCHHAAcCCHHEcCCHHEEcCCHHIcCCHHOcCCHHUcCCHIcCCHOcCCHUcCCIcCCOcCCUcCEcCEEcCHAcCHAA
cCHEcCHEEcCHIcCHOcCHOAcCHUcCHWAcCIcCOcCOAcCUcCWAcDAcDAAcDDAcDDAAcDDEcDDEEcDDHAAcDDHEcDDHEEcDDHI
cDDHOcDDHUcDDIcDDOcDDOAcDDUcDDWAcDEcDEEcDIcDOcDOAcDUcDWAcDZAAcDZEcDZEEcDZIcDZOcDZUcFAcFAAcFEcFEE
cFIcFOcFUcFWAcFWEcFWEEcFWIcFYAcGAcGAAcGEcGEEcGGAcGGAAcGGEcGGEEcGGIcGGOcGGUcGGWAcGGWAAcGGWEcGGWEE
cGGWIcGIcGLOTTAL AdAAdEdEEdIdOdOAdUdWAcGOcGOAcGUcGURAGE BWEEdBWIdFWEEdFWIdGWEdGWEEdGWIdHHWAdKWE
dKWEEdKWIdMWEEdMWIdPWEEdPWIdQWEdQWEEdQWIcGWAcGWAAcGWEcGWEEcGWIcGYAcGYAAcGYEcGYEEcGYIcGYOcGYUcHA
cHAAcHEcHEEcHHAcHHAAcHHEcHHEEcHHIcHHOcHHUcHHWAcHHWEcHHWEEcHHWIcHHYAcHHYAAcHHYEcHHYEEcHHYIcHHYO
cHHYUcHIcHOcHOAcHUcJAcJAAcJEcJEEcJIcJOcJOAcJUcJWAcKAcKAAcKEcKEEcKIcKOcKOAcKUcKWAcKWAAcKWEcKWEEcKWI
cKXAcKXAAcKXEcKXEEcKXIcKXOcKXUcKXWAcKXWAAcKXWEcKXWEEcKXWIcKYAcKYAAcKYEcKYEEcKYIcKYOcKYUcLAcLAAcLE
cLEEcLIcLOcLOAcLUcLWAcMAcMAAcMEcMEEcMIcMOcMOAcMUcMWAcMWEcMWEEcMWIcMYAcNAcNAAcNEcNEEcNIcNOcNOAcNU
cNWAcNYAcNYAAcNYEcNYEEcNYIcNYOcNYOAcNYUcNYWAcPAcPAAcPEcPEEcPHAcPHAAcPHARYNGEAL AdAAdEdEEdIdOdUcPHE
cPHEEcPHIcPHOcPHOAcPHUcPHWAcPIcPOcPOAcPUcPWAcPWEcPWEEcPWIcQAcQAAcQEcQEEcQHAcQHAAcQHEcQHEEcQHIcQHO
cQHUcQHWAcQHWAAcQHWEcQHWEEcQHWIcQIcQOcQOAcQUcQWAcQWAAcQWEcQWEEcQWIcQYAcQYAAcQYEcQYEEcQYIcQYOcQYU
cRAcRAAcREcREEcRIcROcROAcRUcRWAcRYAcSAcSAAcSEcSEBATBEIT BWAdFWAdMWAdPWAcSEEcSHAcSHAAcSHEcSHEEcSHI
cSHOcSHOAcSHUcSHWAcSIcSOcSOAcSSAcSSAAcSSEcSSEEcSSIcSSOcSSUcSUcSWAcSZAcSZAAcSZEcSZEEcSZIcSZOcSZU
cSZWAcTAcTAAcTEcTEEcTHAcTHAAcTHEcTHEEcTHIcTHOcTHOAcTHUcTHWAcTIcTOcTOAcTSAcTSAAcTSEcTSEEcTSIcTSO
cTSUcTSWAcTTHAAcTTHEcTTHEEcTTHIcTTHOcTTHUcTUcTWAcTZAcTZAAcTZEcTZEEcTZIcTZOcTZOAcTZUcVAcVAAcVEcVEE
cVIcVOcVUcVWAcWAcWAAcWEcWEEcWIcWOcWOAcWUcXAcXAAcXEcXEEcXIcXOcXOAcXUcXWAcXWAAcXWEcXWEEcXWIcXYAcXYAA
cXYEcXYEEcXYIcXYOcXYUcYAcYAAcYEcYEEcYIcYOcYOAcYUcZAcZAAcZEcZEEcZHAcZHAAcZHEcZHEEcZHIcZHOcZHUcZHWA
cZIcZOcZOAcZUcZWAcZZAcZZAAcZZEcZZEEcZZIcZZOcZZUbTONAL MARK CHIRETdDERETdDERET-HIDETdDIFATdHIDET
dKENATdKURTdRIKRIKdSHORT RIKRIKdYIZETbWORDSPACEaETXaEULER CONSTANTaEURO SIGNaEURO-CURRENCY SIGN
aEUROPEAN CASTLEbPOST OFFICEaEVERGREEN TREEaEXCESSaEXCLAMATION MARKbQUESTION MARK
aEXPRESSIONLESS FACEaEXTENDED ARABIC-INDIC DIGIT EIGHTdFIVEdFOURdNINEdONEdSEVENdSIXdTHREEdTWOdZERO
aEXTRATERRESTRIAL ALIENaEXTREMELY HEAVY FIVE SPOKED ASTERISKcGREEK CROSScSALTIRE
cSIX SPOKED ASTERISKcWHITE CIRCLEdSQUAREaEYEaEYEGLASSESaEYESaFACE HOLDING BACK TEARSbMASSAGEbPALM
bSAVOURING DELICIOUS FOODbSCREAMING IN FEARbTHROWING A KISSbWITH COLD SWEATcCOWBOY HAT
cDIAGONAL MOUTHcFINGER COVERING CLOSED LIPScHEAD-BANDAGEcLOOK OF TRIUMPHcMEDICAL MASKcMONOCLE
cNO GOOD GESTUREcOK GESTUREcONE EYEBROW RAISEDcOPEN EYES AND HAND OVER MOUTHdMOUTHeAND COLD SWEAT
eVOMITINGcPARTY HORN AND PARTY HATcPEEKING EYEcPLEADING EYEScROLLING EYEScSTUCK-OUT TONGUE
eAND TIGHTLY-CLOSED EYESfWINKING EYEcTEARS OF JOYcTHERMOMETERcUNEVEN EYES AND WAVY MOUTH
bWITHOUT MOUTHaFACSIMILE SIGNaFACTORYaFAIRYaFALAFELaFALLEN LEAF
aFALLING DIAGONAL CROSSING NORTH EAST ARROWdRISING DIAGONALcIN WHITE CIRCLE IN BLACK SQUAREaFAMILY
aFARSI SYMBOLaFATHER CHRISTMASaFAX ICONbMACHINEaFEARFUL FACEaFEATHERaFEMALE SIGN
aFEMININE ORDINAL INDICATORaFENCERaFERRIS WHEELaFERRYaFFaFIELD HOCKEY STICK AND BALLaFIGURE DASH
bSPACEaFILE CABINETbFOLDERbSEPARATORaFILM FRAMESbPROJECTORaFINITE PART INTEGRALaFIREbENGINE
bEXTINGUISHERaFIRECRACKERaFIREWORK SPARKLERaFIREWORKSaFIRST PLACE MEDALbQUARTER MOONdSYMBOL
dWITH FACEbSTRONG ISOLATEaFISHbCAKE WITH SWIRL DESIGNaFISHEYEaFISHING POLE AND FISH
aFISTED HAND SIGNaFIVE DOT MARKcPUNCTUATIONaFLAG IN HOLEaFLAMINGOaFLAT SHOEaFLATBREADaFLATNESS
aFLEUR-DE-LISaFLEXED BICEPSaFLOPPY DISKaFLORAL HEARTaFLOWERbPLAYING CARDSbPUNCTUATION MARK
aFLUSHED FACEaFLYaFLYING DISCbENVELOPEbSAUCERaFOGaFOGGYaFOLDERaFONDUEaFOOTaFOOTPRINTSaFOR ALL
aFORCESaFORK AND KNIFEdWITH PLATEaFORKED PARAGRAPHOSaFORKINGaFORM FEEDaFORTUNE COOKIEaFOUNTAIN
aFOUR BALLOON-SPOKED ASTERISKbCLUB-SPOKED ASTERISKbCORNER ARROWS CIRCLING ANTICLOCKWISEbDOT MARK
cPUNCTUATIONbLEAF CLOVERbPOINTED BLACK STARbTEARDROP-SPOKED ASTERISKaFOUR-PER-EM SPACEaFOURTH ROOT
aFOX FACEaFRACTION NUMERATOR ONEbSLASHaFRAME WITH AN XcPICTUREcTILESaFREEZING FACE
aFRENCH FRANC SIGNbFRIESaFRIED SHRIMPaFROG FACEaFRONT-FACING BABY CHICK
aFRONT-TILTED SHADOWED WHITE RIGHTWARDS ARROWaFROWNaFROWNING FACE WITH OPEN MOUTHaFSaFSIaFUEL PUMP
aFULL BLOCKbMOON SYMBOLcWITH FACEbOUTER JOINbSTOPaFULLWIDTH AMPERSANDbAPOSTROPHEbASTERISK
bBROKEN BARbCENT SIGNbCIRCUMFLEX ACCENTbCOLONbCOMMAbCOMMERCIAL ATbDIGIT EIGHTcFIVEcFOURcNINEcONE
cSEVENcSIXcTHREEcTWOcZERObDOLLAR SIGNbEQUALS SIGNbEXCLAMATION MARKbFULL STOPbGRAVE ACCENT
bGREATER-THAN SIGNbHYPHEN-MINUSbLATIN CAPITAL LETTER AeBeCeDeEeFeGeHeIeJeKeLeMeNeOePeQeReSeTeUeVeW
eXeYeZcSMALL LETTER AeBeCeDeEeFeGeHeIeJeKeLeMeNeOePeQeReSeTeUeVeWeXeYeZbLEFT CURLY BRACKET
cPARENTHESIScSQUARE BRACKETcWHITE PARENTHESISbLESS-THAN SIGNbLOW LINEbMACRONbNOT SIGNbNUMBER SIGN
bPERCENT SIGNbPLUS SIGNbPOUND SIGNbQUESTION MARKbQUOTATION MARKbREVERSE SOLIDUS
bRIGHT CURLY BRACKETcPARENTHESIScSQUARE BRACKETcWHITE PARENTHESISbSEMICOLONbSOLIDUSbTILDE
bVERTICAL LINEbWON SIGNbYEN SIGNaFUNCTION APPLICATIONaFUNERAL URNaFUSEaFVS1aFVS2aFVS3aFVS4
aGAME DIEaGARLICaGEARbWITH HANDLESbWITHOUT HUBaGEM STONEaGEMINIaGENIEaGEOMETRIC PROPORTION
aGEOMETRICALLY EQUAL TObEQUIVALENT TOaGEORGIAN CAPITAL LETTER AENdANdBANdCANdCHARdCHINdCILdDONdEN
dGANdGHANdHAEdHARdHEdHIEdHOEdINdJHANdJILdKANdKHARdLASdMANdNARdONdPARdPHARdQARdRAEdSANdSHINdTANdTAR
dUNdVINdWEdXANdYNdZENdZHARbLETTER AENcAINcANcBANcCANcCHARcCHINcCILcDONcELIFIcENcFIcGANcGHANcHAE
cHARcHARD SIGNcHEcHIEcHOEcINcJHANcJILcKANcKHARcLABIAL SIGNcLAScMANcNARcONcPARcPHARcQARcRAEcSAN
cSHINcTANcTARcTURNED GANcUNcVINcWEcXANcYNcZENcZHARbMTAVRULI CAPITAL LETTER AENeAINeANeBANeCANeCHAR
eCHINeCILeDONeELIFIeENeFIeGANeGHANeHAEeHAReHARD SIGNeHEeHIEeHOEeINeJHANeJILeKANeKHAReLABIAL SIGN
eLASeMANeNAReONePARePHAReQAReRAEeSANeSHINeTANeTAReTURNED GANeUNeVINeWEeXANeYNeZENeZHAR
bPARAGRAPH SEPARATORbSMALL LETTER AENdANdBANdCANdCHARdCHINdCILdDONdENdGANdGHANdHAEdHARdHEdHIEdHOE
dINdJHANdJILdKANdKHARdLASdMANdNARdONdPARdPHARdQARdRAEdSANdSHINdTANdTARdUNdVINdWEdXANdYNdZENdZHAR
aGERMAN PENNY SIGNaGETA MARKaGHOSTaGIMEL SYMBOLaGIRAFFE FACEaGIRLaGIRLS SYMBOL
aGLAGOLITIC CAPITAL LETTER AZUdBIG YUSdBUKYdCAUDATE CHRIVIdCHRIVIdDJERVIdDOBROdDZELOdFITAdFRITU
dGLAGOLIdHERUdIdINITIAL IZHEdIOTATED BIG YUSeSMALL YUSdIZHEdIZHITSAdKAKOdLATINATE MYSLITEdLJUDIJE
dMYSLITEdNASHIdONUdOTUdPEdPOKOJIdRITSIdSHAdSHTAdSHTAPICdSLOVOdSMALL YUSfWITH TAILdSPIDERY HA
dTROKUTASTI AdTSIdTVRIDOdUKUdVEDEdYATIdYERIdYERUdYESTUdYOdYUdZEMLJAdZHIVETEbSMALL LETTER AZU
dBIG YUSdBUKYdCAUDATE CHRIVIdCHRIVIdDJERVIdDOBROdDZELOdFITAdFRITUdGLAGOLIdHERUdIdINITIAL IZHE
dIOTATED BIG YUSeSMALL YUSdIZHEdIZHITSAdKAKOdLATINATE MYSLITEdLJUDIJEdMYSLITEdNASHIdONUdOTUdPE
dPOKOJIdRITSIdSHAdSHTAdSHTAPICdSLOVOdSMALL YUSfWITH TAILdSPIDERY HAdTROKUTASTI AdTSIdTVRIDOdUKU
dVEDEdYATIdYERIdYERUdYESTUdYOdYUdZEMLJAdZHIVETEaGLASS OF MILKaGLEICH STARKaGLOBE WITH MERIDIANS
aGLOVESaGLOWING STARaGOAL NETaGOATaGOGGLESaGOLFERaGORILLAaGOTHIC LETTER AHSAcAIHVUScBAIRKANcDAGS
cEIScFAIHUcGIBAcHAGLcHWAIRcIGGWScIUJAcJERcKUSMAcLAGUScMANNAcNAUTHScNINE HUNDREDcNINETYcOTHAL
cPAIRTHRAcQAIRTHRAcRAIDAcSAUILcTEIWScTHIUTHcURUScWINJAaGRADUATION CAPaGRANTHA AU LENGTH MARK
bLETTER AcAAcAIcAUcBAcBHAcCAcCHAcDAcDDAcDDHAcDHAcEEcGAcGHAcHAcIcIIcJAcJHAcKAcKHAcLAcLLAcMAcNAcNGA
cNNAcNYAcOOcPAcPHAcRAcSAcSHAcSSAcTAcTHAcTTAcTTHAcUcUUcVAcVEDIC ANUSVARAdDOUBLE ANUSVARAcVOCALIC L
dLLdRdRRcYAbOMbSIGN ANUSVARAcAVAGRAHAcCANDRABINDUcCOMBINING ANUSVARA ABOVEcNUKTAcPLUTAcVIRAMA
cVISARGAbVOWEL SIGN AAdAIdAUdEEdIdIIdOOdUdUUdVOCALIC LeLLeReRRaGRAPESaGRAVE ACCENT
aGREATER-THAN ABOVE DOUBLE-LINE EQUAL ABOVE LESS-THANcLESS-THAN ABOVE DOUBLE-LINE EQUAL
cRIGHTWARDS ARROWcSIMILAR ABOVE LESS-THANdOR EQUAL
cSLANTED EQUAL ABOVE LESS-THAN ABOVE SLANTED EQUALbAND NOT APPROXIMATEcSINGLE-LINE NOT EQUAL TO
bBESIDE LESS-THANbBUT NOT EQUAL TOdEQUIVALENT TObCLOSED BY CURVEeABOVE SLANTED EQUAL
bEQUAL TO OR LESS-THANbOR APPROXIMATEcEQUAL TOcEQUIVALENT TOcLESS-THANcSLANTED EQUAL TO
fWITH DOT ABOVEiLEFThINSIDEbOVER EQUAL TObOVERLAPPING LESS-THANbSIGNbWITH CIRCLE INSIDEcDOT
cQUESTION MARK ABOVEaGREEK ACROPHONIC ATTIC FIFTYeSTATERSeTALENTSeTHOUSANDfSTATERSdFIVEeHUNDRED
fSTATERSfTALENTSeSTATERSeTALENTSeTHOUSANDfTALENTSdONE DRACHMAeHALFeHUNDRED STATERSfTALENTSeQUARTER
eTHOUSAND STATERSfTALENTSdTEN MNASeSTATERSeTALENTSeTHOUSAND STATERScCARYSTIAN FIVE HUNDRED
cCYRENAIC TWO DRACHMAScDELPHIC FIVE MNAScEPIDAUREAN FIVE HUNDREDdTWOeDRACHMAScHERAEUM ONE PLETHRON
cHERMIONIAN FIFTYdONEdTENcMESSENIAN TENcNAXIAN FIVE HUNDREDcSTRATIAN FIFTY MNAScTHESPIAN FIFTY
dFIVE HUNDREDeTHOUSANDdONEeHUNDREDeTHOUSANDdTENdTHIRTYdTHREE HUNDREDdTWOcTROEZENIAN FIFTY
eALTERNATE FORMdFIVEeHUNDREDdTENeALTERNATE FORMbANO TELEIAbAROURA SIGNbARTABE SIGNbBETA SYMBOL
bCAPITAL DOTTED LUNATE SIGMA SYMBOLcKAI SYMBOLcLETTER ALPHAeWITH DASIAgAND OXIAiAND PROSGEGRAMMENI
hPERISPOMENIiAND PROSGEGRAMMENIhPROSGEGRAMMENIhVARIAiAND PROSGEGRAMMENIfMACRONfOXIAfPROSGEGRAMMENI
fPSILIgAND OXIAiAND PROSGEGRAMMENIhPERISPOMENIiAND PROSGEGRAMMENIhPROSGEGRAMMENIhVARIA
iAND PROSGEGRAMMENIfTONOSfVARIAfVRACHYdARCHAIC SAMPIdBETAdCHIdDELTAdEPSILONeWITH DASIAgAND OXIA
hVARIAfOXIAfPSILIgAND OXIAhVARIAfTONOSfVARIAdETAeWITH DASIAgAND OXIAiAND PROSGEGRAMMENI
hPERISPOMENIiAND PROSGEGRAMMENIhPROSGEGRAMMENIhVARIAiAND PROSGEGRAMMENIfOXIAfPROSGEGRAMMENIfPSILI
gAND OXIAiAND PROSGEGRAMMENIhPERISPOMENIiAND PROSGEGRAMMENIhPROSGEGRAMMENIhVARIA
iAND PROSGEGRAMMENIfTONOSfVARIAdGAMMAdHETAdIOTAeWITH DASIAgAND OXIAhPERISPOMENIhVARIAfDIALYTIKA
fMACRONfOXIAfPSILIgAND OXIAhPERISPOMENIhVARIAfTONOSfVARIAfVRACHYdKAPPAdLAMDAdMUdNUdOMEGA
eWITH DASIAgAND OXIAiAND PROSGEGRAMMENIhPERISPOMENIiAND PROSGEGRAMMENIhPROSGEGRAMMENIhVARIA
iAND PROSGEGRAMMENIfOXIAfPROSGEGRAMMENIfPSILIgAND OXIAiAND PROSGEGRAMMENIhPERISPOMENI
iAND PROSGEGRAMMENIhPROSGEGRAMMENIhVARIAiAND PROSGEGRAMMENIfTONOSfVARIAdOMICRONeWITH DASIA
gAND OXIAhVARIAfOXIAfPSILIgAND OXIAhVARIAfTONOSfVARIAdPAMPHYLIAN DIGAMMAdPHIdPIdPSIdRHOeWITH DASIA
dSANdSHOdSIGMAdTAUdTHETAdUPSILONeWITH DASIAgAND OXIAhPERISPOMENIhVARIAfDIALYTIKAfMACRONfOXIAfTONOS
fVARIAfVRACHYdXIdYOTdZETAcLUNATE SIGMA SYMBOLcREVERSED DOTTED LUNATE SIGMA SYMBOL
dLUNATE SIGMA SYMBOLcTHETA SYMBOLbDASIAcAND OXIAdPERISPOMENIdVARIAbDIALYTIKA AND OXIAdPERISPOMENI
dVARIAcTONOSbDRACHMA SIGNbFIVE OBOLS SIGNbFOUR OBOLS SIGNbGRAMMA SIGNbINDICTION SIGN
bINSTRUMENTAL NOTATION SYMBOL-1dSYMBOL-11dSYMBOL-12dSYMBOL-13dSYMBOL-14dSYMBOL-17dSYMBOL-18
dSYMBOL-19dSYMBOL-2dSYMBOL-23dSYMBOL-24dSYMBOL-25dSYMBOL-26dSYMBOL-27dSYMBOL-29dSYMBOL-30
dSYMBOL-32dSYMBOL-36dSYMBOL-37dSYMBOL-38dSYMBOL-39dSYMBOL-4dSYMBOL-40dSYMBOL-42dSYMBOL-43
dSYMBOL-45dSYMBOL-47dSYMBOL-48dSYMBOL-49dSYMBOL-5dSYMBOL-50dSYMBOL-51dSYMBOL-52dSYMBOL-53
dSYMBOL-54dSYMBOL-7dSYMBOL-8bKAI SYMBOLbKAPPA SYMBOLbKORONISbKYATHOS BASE SIGN
bLETTER ARCHAIC KOPPAcDIGAMMAcKOPPAcSAMPIcSMALL CAPITAL GAMMAeLAMDAeOMEGAePIePSIeRHOcSTIGMAcYOT
bLITRA SIGNbLOWER NUMERAL SIGNbLUNATE EPSILON SYMBOLcSIGMA SYMBOLbMETRETES SIGNbMUSICAL LEIMMA
bNUMERAL SIGNbOBOL SIGNbONE HALF SIGNeALTERNATE FORMcQUARTER SIGNbOUNKIA SIGNbOXIAbPERISPOMENI
bPHI SYMBOLbPI SYMBOLbPROSGEGRAMMENIbPSILIcAND OXIAdPERISPOMENIdVARIAbQUESTION MARK
bREVERSED LUNATE EPSILON SYMBOLbRHO SYMBOLcWITH STROKE SYMBOLbSINUSOID SIGN
bSMALL DOTTED LUNATE SIGMA SYMBOLcLETTER ALPHAeWITH DASIAgAND OXIAiAND YPOGEGRAMMENIhPERISPOMENI
iAND YPOGEGRAMMENIhVARIAiAND YPOGEGRAMMENIhYPOGEGRAMMENIfMACRONfOXIAgAND YPOGEGRAMMENIfPERISPOMENI
gAND YPOGEGRAMMENIfPSILIgAND OXIAiAND YPOGEGRAMMENIhPERISPOMENIiAND YPOGEGRAMMENIhVARIA
iAND YPOGEGRAMMENIhYPOGEGRAMMENIfTONOSfVARIAgAND YPOGEGRAMMENIfVRACHYfYPOGEGRAMMENIdARCHAIC KOPPA
eSAMPIdBETAdCHIdDELTAdDIGAMMAdEPSILONeWITH DASIAgAND OXIAhVARIAfOXIAfPSILIgAND OXIAhVARIAfTONOS
fVARIAdETAeWITH DASIAgAND OXIAiAND YPOGEGRAMMENIhPERISPOMENIiAND YPOGEGRAMMENIhVARIA
iAND YPOGEGRAMMENIhYPOGEGRAMMENIfOXIAgAND YPOGEGRAMMENIfPERISPOMENIgAND YPOGEGRAMMENIfPSILI
gAND OXIAiAND YPOGEGRAMMENIhPERISPOMENIiAND YPOGEGRAMMENIhVARIAiAND YPOGEGRAMMENIhYPOGEGRAMMENI
fTONOSfVARIAgAND YPOGEGRAMMENIfYPOGEGRAMMENIdFINAL SIGMAdGAMMAdHETAdIOTAeWITH DASIAgAND OXIA
hPERISPOMENIhVARIAfDIALYTIKAgAND OXIAhPERISPOMENIhTONOShVARIAfMACRONfOXIAfPERISPOMENIfPSILI
gAND OXIAhPERISPOMENIhVARIAfTONOSfVARIAfVRACHYdKAPPAdKOPPAdLAMDAdMUdNUdOMEGAeWITH DASIAgAND OXIA
iAND YPOGEGRAMMENIhPERISPOMENIiAND YPOGEGRAMMENIhVARIAiAND YPOGEGRAMMENIhYPOGEGRAMMENIfOXIA
gAND YPOGEGRAMMENIfPERISPOMENIgAND YPOGEGRAMMENIfPSILIgAND OXIAiAND YPOGEGRAMMENIhPERISPOMENI
iAND YPOGEGRAMMENIhVARIAiAND YPOGEGRAMMENIhYPOGEGRAMMENIfTONOSfVARIAgAND YPOGEGRAMMENI
fYPOGEGRAMMENIdOMICRONeWITH DASIAgAND OXIAhVARIAfOXIAfPSILIgAND OXIAhVARIAfTONOSfVARIA
dPAMPHYLIAN DIGAMMAdPHIdPIdPSIdRHOeWITH DASIAfPSILIdSAMPIdSANdSHOdSIGMAdSTIGMAdTAUdTHETAdUPSILON
eWITH DASIAgAND OXIAhPERISPOMENIhVARIAfDIALYTIKAgAND OXIAhPERISPOMENIhTONOShVARIAfMACRONfOXIA
fPERISPOMENIfPSILIgAND OXIAhPERISPOMENIhVARIAfTONOSfVARIAfVRACHYdXIdZETA
cREVERSED DOTTED LUNATE SIGMA SYMBOLdLUNATE SIGMA SYMBOLbSUBSCRIPT SMALL LETTER BETAeCHIeGAMMAePHI
eRHObSYMBOL TAU RHObTALENT SIGNbTHETA SYMBOLbTHREE OBOLS SIGNcQUARTERS SIGNbTONOS
bTRYBLION BASE SIGNbTWO OBOLS SIGNcTHIRDS SIGNbUPSILON WITH ACUTE AND HOOK SYMBOL
dDIAERESIS AND HOOK SYMBOLdHOOK SYMBOLbVARIAbVOCAL NOTATION SYMBOL-1dSYMBOL-10dSYMBOL-11dSYMBOL-12
dSYMBOL-13dSYMBOL-14dSYMBOL-15dSYMBOL-16dSYMBOL-17dSYMBOL-18dSYMBOL-19dSYMBOL-2dSYMBOL-20
dSYMBOL-21dSYMBOL-22dSYMBOL-23dSYMBOL-24dSYMBOL-3dSYMBOL-4dSYMBOL-5dSYMBOL-50dSYMBOL-51dSYMBOL-52
dSYMBOL-53dSYMBOL-54dSYMBOL-6dSYMBOL-7dSYMBOL-8dSYMBOL-9bXESTES SIGNbYEAR SIGNbYPOGEGRAMMENI
bZERO SIGNaGREEN APPLEbBOOKbHEARTbSALADaGRIMACING FACEaGRINNING CAT FACE WITH SMILING EYESbFACE
cWITH ONE LARGE AND ONE SMALL EYEdSMILING EYESdSTAR EYESaGROUP MARKbSEPARATORaGROWING HEARTaGS
aGUARANI SIGNaGUARDSMANaGUIDE DOGaGUITARaGUJARATI ABBREVIATION SIGNbDIGIT EIGHTcFIVEcFOURcNINEcONE
cSEVENcSIXcTHREEcTWOcZERObLETTER AcAAcAIcAUcBAcBHAcCAcCHAcDAcDDAcDDHAcDHAcEcGAcGHAcHAcIcIIcJAcJHA
cKAcKHAcLAcLLAcMAcNAcNGAcNNAcNYAcOcPAcPHAcRAcSAcSHAcSSAcTAcTHAcTTAcTTHAcUcUUcVAcVOCALIC LdLLdRdRR
cYAcZHAbOMbRUPEE SIGNbSIGN ANUSVARAcAVAGRAHAcCANDRABINDUcCIRCLE NUKTA ABOVEcMADDAHcNUKTAcSHADDA
cSUKUNcTHREE-DOT NUKTA ABOVEcTWO-CIRCLE NUKTA ABOVEcVIRAMAcVISARGAbVOWEL CANDRA EdOcSIGN AAdAIdAU
dCANDRA EeOdEdIdIIdOdUdUUdVOCALIC LeLLeReRRaGUNJALA GONDI DIGIT EIGHTdFIVEdFOURdNINEdONEdSEVENdSIX
dTHREEdTWOdZEROcLETTER AdAAdAIdAUdBAdBHAdCAdCHAdDAdDDAdDDHAdDHAdEEdGAdGHAdHAdIdIIdJAdJHAdKAdKHAdLA
dLLAdMAdNAdNGAdOOdPAdPHAdRAdSAdTAdTHAdTTAdTTHAdUdUUdVAdYAcOMcSIGN ANUSVARAdVISARGAcVIRAMA
cVOWEL SIGN AAeAIeAUeEEeIeIIeOOeUeUUaGURMUKHI ABBREVIATION SIGNbADDAKbDIGIT EIGHTcFIVEcFOURcNINE
cONEcSEVENcSIXcTHREEcTWOcZERObEK ONKARbIRIbLETTER AcAAcAIcAUcBAcBHAcCAcCHAcDAcDDAcDDHAcDHAcEEcFA
cGAcGHAcGHHAcHAcIcIIcJAcJHAcKAcKHAcKHHAcLAcLLAcMAcNAcNGAcNNAcNYAcOOcPAcPHAcRAcRRAcSAcSHAcTAcTHA
cTTAcTTHAcUcUUcVAcYAcZAbSIGN ADAK BINDIcBINDIcNUKTAcUDAATcVIRAMAcVISARGAcYAKASHbTIPPIbURA
bVOWEL SIGN AAdAIdAUdEEdIdIIdOOdUdUUaHADESaHAIR SPACEaHAIRCUTaHALFWIDTH BLACK SQUARE
bDOWNWARDS ARROWbFORMS LIGHT VERTICALbHANGUL FILLERcLETTER AdAEdCHIEUCHdCIEUCdEdEOdEUdHIEUHdI
dIEUNGdKHIEUKHdKIYEOKdKIYEOK-SIOSdMIEUMdNIEUNdNIEUN-CIEUCdNIEUN-HIEUHdOdOEdPHIEUPHdPIEUP
dPIEUP-SIOSdRIEULdRIEUL-HIEUHdRIEUL-KIYEOKdRIEUL-MIEUMdRIEUL-PHIEUPHdRIEUL-PIEUPdRIEUL-SIOS
dRIEUL-THIEUTHdSIOSdSSANGCIEUCdSSANGKIYEOKdSSANGPIEUPdSSANGSIOSdSSANGTIKEUTdTHIEUTHdTIKEUTdUdWA
dWAEdWEdWEOdWIdYAdYAEdYEdYEOdYIdYOdYUbIDEOGRAPHIC COMMAcFULL STOPbKATAKANA LETTER AdEdHAdHEdHIdHO
dHUdIdKAdKEdKIdKOdKUdMAdMEdMIdMOdMUdNdNAdNEdNIdNOdNUdOdRAdREdRIdROdRUdSAdSEdSIdSMALL AeEeIeOeTUeU
eYAeYOeYUdSOdSUdTAdTEdTIdTOdTUdUdWAdWOdYAdYOdYUcMIDDLE DOTcSEMI-VOICED SOUND MARK
cVOICED SOUND MARKbKATAKANA-HIRAGANA PROLONGED SOUND MARKbLEFT CORNER BRACKETbLEFTWARDS ARROW
bRIGHT CORNER BRACKETbRIGHTWARDS ARROWbUPWARDS ARROWbWHITE CIRCLEaHAMBURGERaHAMMERbAND PICKcSICKLE
cWRENCHaHAMSAaHAMSTER FACEaHAND WITH INDEX AND MIDDLE FINGERS CROSSEDdFINGER AND THUMB CROSSED
aHANDBAGaHANDBALLaHANDSHAKEaHANGUL CHOSEONG CEONGCHIEUMCHIEUCHcCEONGCHIEUMCIEUCcCEONGCHIEUMSIOS
cCEONGCHIEUMSSANGCIEUCcCEONGCHIEUMSSANGSIOScCHIEUCHcCHIEUCH-HIEUHcCHIEUCH-KHIEUKHcCHITUEUMCHIEUCH
cCHITUEUMCIEUCcCHITUEUMSIOScCHITUEUMSSANGCIEUCcCHITUEUMSSANGSIOScCIEUCcCIEUC-IEUNGcFILLERcHIEUH
cHIEUH-SIOScIEUNGcIEUNG-CHIEUCHcIEUNG-CIEUCcIEUNG-HIEUHcIEUNG-KIYEOKcIEUNG-MIEUMcIEUNG-PANSIOS
cIEUNG-PHIEUPHcIEUNG-PIEUPcIEUNG-RIEULcIEUNG-SIOScIEUNG-THIEUTHcIEUNG-TIKEUTcKAPYEOUNMIEUM
cKAPYEOUNPHIEUPHcKAPYEOUNPIEUPcKAPYEOUNRIEULcKAPYEOUNSSANGPIEUPcKHIEUKHcKIYEOKcKIYEOK-TIKEUTcMIEUM
cMIEUM-KIYEOKcMIEUM-PIEUPcMIEUM-SIOScMIEUM-TIKEUTcNIEUNcNIEUN-CIEUCcNIEUN-HIEUHcNIEUN-KIYEOK
cNIEUN-PIEUPcNIEUN-SIOScNIEUN-TIKEUTcPANSIOScPHIEUPHcPHIEUPH-HIEUHcPHIEUPH-PIEUPcPIEUP
cPIEUP-CHIEUCHcPIEUP-CIEUCcPIEUP-HIEUHcPIEUP-KHIEUKHcPIEUP-KIYEOKcPIEUP-NIEUNcPIEUP-PHIEUPH
cPIEUP-SIOScPIEUP-SIOS-CIEUCcPIEUP-SIOS-KIYEOKcPIEUP-SIOS-PIEUPcPIEUP-SIOS-THIEUTH
cPIEUP-SIOS-TIKEUTcPIEUP-SSANGSIOScPIEUP-THIEUTHcPIEUP-TIKEUTcRIEULcRIEUL-CIEUCcRIEUL-HIEUH
cRIEUL-KAPYEOUNPIEUPcRIEUL-KHIEUKHcRIEUL-KIYEOKcRIEUL-MIEUMcRIEUL-NIEUNcRIEUL-PIEUPcRIEUL-SIOS
cRIEUL-SSANGKIYEOKcRIEUL-SSANGPIEUPcRIEUL-SSANGTIKEUTcRIEUL-TIKEUTcSIOScSIOS-CHIEUCHcSIOS-CIEUC
cSIOS-HIEUHcSIOS-IEUNGcSIOS-KHIEUKHcSIOS-KIYEOKcSIOS-MIEUMcSIOS-NIEUNcSIOS-PHIEUPHcSIOS-PIEUP
cSIOS-PIEUP-KIYEOKcSIOS-RIEULcSIOS-SSANGSIOScSIOS-THIEUTHcSIOS-TIKEUTcSSANGCIEUCcSSANGCIEUC-HIEUH
cSSANGHIEUHcSSANGIEUNGcSSANGKIYEOKcSSANGNIEUNcSSANGPIEUPcSSANGRIEULcSSANGSIOScSSANGSIOS-PIEUP
cSSANGTHIEUTHcSSANGTIKEUTcSSANGYEORINHIEUHcTHIEUTHcTIKEUTcTIKEUT-CIEUCcTIKEUT-KIYEOKcTIKEUT-MIEUM
cTIKEUT-PIEUPcTIKEUT-RIEULcTIKEUT-SIOScYEORINHIEUHcYESIEUNGbDOUBLE DOT TONE MARKbFILLER
bJONGSEONG CHIEUCHcCIEUCcCIEUC-PIEUPcCIEUC-SSANGPIEUPcHIEUHcHIEUH-MIEUMcHIEUH-NIEUNcHIEUH-PIEUP
cHIEUH-RIEULcIEUNGcIEUNG-KHIEUKHcIEUNG-KIYEOKcIEUNG-SSANGKIYEOKcKAPYEOUNMIEUMcKAPYEOUNPHIEUPH
cKAPYEOUNPIEUPcKAPYEOUNRIEULcKHIEUKHcKIYEOKcKIYEOK-CHIEUCHcKIYEOK-HIEUHcKIYEOK-KHIEUKH
cKIYEOK-NIEUNcKIYEOK-PIEUPcKIYEOK-RIEULcKIYEOK-SIOScKIYEOK-SIOS-KIYEOKcMIEUMcMIEUM-CHIEUCH
cMIEUM-CIEUCcMIEUM-HIEUHcMIEUM-KIYEOKcMIEUM-NIEUNcMIEUM-PANSIOScMIEUM-PIEUPcMIEUM-PIEUP-SIOS
cMIEUM-RIEULcMIEUM-SIOScMIEUM-SSANGNIEUNcMIEUM-SSANGSIOScNIEUNcNIEUN-CHIEUCHcNIEUN-CIEUC
cNIEUN-HIEUHcNIEUN-KIYEOKcNIEUN-PANSIOScNIEUN-RIEULcNIEUN-SIOScNIEUN-THIEUTHcNIEUN-TIKEUTcPANSIOS
cPANSIOS-KAPYEOUNPIEUPcPANSIOS-PIEUPcPHIEUPHcPHIEUPH-PIEUPcPHIEUPH-SIOScPHIEUPH-THIEUTHcPIEUP
cPIEUP-CHIEUCHcPIEUP-CIEUCcPIEUP-HIEUHcPIEUP-MIEUMcPIEUP-PHIEUPHcPIEUP-RIEULcPIEUP-RIEUL-PHIEUPH
cPIEUP-SIOScPIEUP-SIOS-TIKEUTcPIEUP-TIKEUTcRIEULcRIEUL-HIEUHcRIEUL-KAPYEOUNPIEUPcRIEUL-KHIEUKH
cRIEUL-KIYEOKcRIEUL-KIYEOK-HIEUHcRIEUL-KIYEOK-SIOScRIEUL-MIEUMcRIEUL-MIEUM-HIEUH
cRIEUL-MIEUM-KIYEOKcRIEUL-MIEUM-SIOScRIEUL-NIEUNcRIEUL-PANSIOScRIEUL-PHIEUPHcRIEUL-PIEUP
cRIEUL-PIEUP-HIEUHcRIEUL-PIEUP-PHIEUPHcRIEUL-PIEUP-SIOScRIEUL-PIEUP-TIKEUTcRIEUL-SIOS
cRIEUL-SSANGKIYEOKcRIEUL-SSANGSIOScRIEUL-THIEUTHcRIEUL-TIKEUTcRIEUL-TIKEUT-HIEUHcRIEUL-YEORINHIEUH
cRIEUL-YEORINHIEUH-HIEUHcRIEUL-YESIEUNGcSIOScSIOS-CHIEUCHcSIOS-CIEUCcSIOS-HIEUHcSIOS-KAPYEOUNPIEUP
cSIOS-KIYEOKcSIOS-MIEUMcSIOS-PANSIOScSIOS-PIEUPcSIOS-RIEULcSIOS-THIEUTHcSIOS-TIKEUTcSSANGCIEUC
cSSANGIEUNGcSSANGKIYEOKcSSANGMIEUMcSSANGNIEUNcSSANGPIEUPcSSANGRIEULcSSANGRIEUL-KHIEUKHcSSANGSIOS
cSSANGSIOS-KIYEOKcSSANGSIOS-TIKEUTcSSANGTIKEUTcSSANGTIKEUT-PIEUPcSSANGYESIEUNGcTHIEUTHcTIKEUT
cTIKEUT-CHIEUCHcTIKEUT-CIEUCcTIKEUT-KIYEOKcTIKEUT-PIEUPcTIKEUT-RIEULcTIKEUT-SIOS
cTIKEUT-SIOS-KIYEOKcTIKEUT-THIEUTHcYEORINHIEUHcYESIEUNGcYESIEUNG-HIEUHcYESIEUNG-KHIEUKH
cYESIEUNG-KIYEOKcYESIEUNG-MIEUMcYESIEUNG-PANSIOScYESIEUNG-SIOScYESIEUNG-SSANGKIYEOKbJUNGSEONG A
cA-EUcA-OcA-UcAEcARAEAcARAEA-AcARAEA-EcARAEA-EOcARAEA-IcARAEA-UcEcEOcEO-EUcEO-OcEO-UcEUcEU-AcEU-E
cEU-EOcEU-EUcEU-OcEU-UcFILLERcIcI-AcI-ARAEAcI-EUcI-IcI-OcI-O-IcI-UcI-YAcI-YA-OcI-YAEcI-YEcI-YEO
cI-YOcI-YUcOcO-EcO-EOcO-OcO-O-IcO-UcO-YAcO-YAEcO-YEcO-YEOcOEcSSANGARAEAcUcU-AcU-AEcU-EO-EUcU-I-I
cU-UcU-YEcU-YEOcWAcWAEcWEcWEOcWIcYAcYA-OcYA-UcYA-YOcYAEcYEcYEOcYEO-OcYEO-UcYEO-YAcYIcYI-UcYOcYO-A
cYO-AEcYO-EOcYO-IcYO-OcYO-YAcYO-YAEcYO-YEOcYUcYU-AcYU-AEcYU-EcYU-EOcYU-IcYU-OcYU-UcYU-YEcYU-YEO
bLETTER AcAEcARAEAcARAEAEcCHIEUCHcCIEUCcEcEOcEUcHIEUHcIcIEUNGcKAPYEOUNMIEUMcKAPYEOUNPHIEUPH
cKAPYEOUNPIEUPcKAPYEOUNSSANGPIEUPcKHIEUKHcKIYEOKcKIYEOK-SIOScMIEUMcMIEUM-PANSIOScMIEUM-PIEUP
cMIEUM-SIOScNIEUNcNIEUN-CIEUCcNIEUN-HIEUHcNIEUN-PANSIOScNIEUN-SIOScNIEUN-TIKEUTcOcOEcPANSIOS
cPHIEUPHcPIEUPcPIEUP-CIEUCcPIEUP-KIYEOKcPIEUP-SIOScPIEUP-SIOS-KIYEOKcPIEUP-SIOS-TIKEUT
cPIEUP-THIEUTHcPIEUP-TIKEUTcRIEULcRIEUL-HIEUHcRIEUL-KIYEOKcRIEUL-KIYEOK-SIOScRIEUL-MIEUM
cRIEUL-PANSIOScRIEUL-PHIEUPHcRIEUL-PIEUPcRIEUL-PIEUP-SIOScRIEUL-SIOScRIEUL-THIEUTHcRIEUL-TIKEUT
cRIEUL-YEORINHIEUHcSIOScSIOS-CIEUCcSIOS-KIYEOKcSIOS-NIEUNcSIOS-PIEUPcSIOS-TIKEUTcSSANGCIEUC
cSSANGHIEUHcSSANGIEUNGcSSANGKIYEOKcSSANGNIEUNcSSANGPIEUPcSSANGSIOScSSANGTIKEUTcTHIEUTHcTIKEUTcUcWA
cWAEcWEcWEOcWIcYAcYAEcYEcYEOcYEORINHIEUHcYESIEUNGcYESIEUNG-PANSIOScYESIEUNG-SIOScYIcYOcYO-IcYO-YA
cYO-YAEcYUcYU-IcYU-YEcYU-YEObSINGLE DOT TONE MARKaHANGZHOU NUMERAL EIGHTcFIVEcFOURcNINEcONEcSEVEN
cSIXcTENcTHIRTYcTHREEcTWENTYcTWOaHANIFI ROHINGYA DIGIT EIGHTdFIVEdFOURdNINEdONEdSEVENdSIXdTHREE
dTWOdZEROcLETTER AdBAdCAdDAdDDAdFAdGAdHAdJAdKAdKHAdKINNA WAeYAdLAdMAdNAdNGAdNYAdPAdRAdRRAdSAdSHA
dTAdTTAdVAdWAdYAdZAcMARK NA KHONNAdSAKINcSIGN HARBAHAYdTAHALAdTANAdTASSIcVOWEL AdEdIdOdU
aHANUNOO LETTER AcBAcDAcGAcHAcIcKAcLAcMAcNAcNGAcPAcRAcSAcTAcUcWAcYAbSIGN PAMUDPODbVOWEL SIGN IdU
aHAPPY PERSON RAISING ONE HANDaHARD DISKaHATCHING CHICKaHATRAN LETTER ALEPHcAYNcBETHcDALETH-RESH
cGIMELcHEcHETHcKAPHcLAMEDHcMEMcNUNcPEcQOPHcSADHEcSAMEKHcSHINcTAWcTETHcWAWcYODHcZAYNbNUMBER FIVE
cONEdHUNDREDcTENcTWENTYaHEADPHONEaHEADSTONEbGRAVEYARD SYMBOLaHEAR-NO-EVIL MONKEYaHEART DECORATION
bHANDSbWITH ARROWcRIBBONcTIP ON THE LEFTaHEAVY AMPERSAND ORNAMENTbARROW SHAFT WIDTH ONEfHALFfTHIRD
eTWO THIRDSbASTERISKbBALLOT XbBLACK CURVED DOWNWARDS AND RIGHTWARDS ARROW
dUPWARDS AND RIGHTWARDS ARROWcHEARTbBLACK-FEATHERED NORTH EAST ARROWcRIGHTWARDS ARROW
cSOUTH EAST ARROWbCHECK MARKbCHEVRON SNOWFLAKEbCIRCLEcWITH CIRCLE INSIDEdSTROKE AND TWO DOTS ABOVE
bCIRCLED SALTIREbCONCAVE-POINTED BLACK RIGHTWARDS ARROWbDASHED TRIANGLE-HEADED RIGHTWARDS ARROW
bDIVISION SIGNbDOLLAR SIGNbDOUBLE COMMA QUOTATION MARK ORNAMENT
cTURNED COMMA QUOTATION MARK ORNAMENTbDOWNWARDS ARROW WITH EQUILATERAL ARROWHEAD
eLARGE EQUILATERAL ARROWHEADbEIGHT POINTED BLACK STARdPINWHEEL STARdRECTILINEAR BLACK STAR
cSPOKED ASTERISKcTEARDROP-SPOKED PROPELLER ASTERISKbEQUALS SIGNbEXCLAMATION MARK ORNAMENTdSYMBOL
bFIVE POINTED BLACK STARcSPOKED ASTERISKbFOUR BALLOON-SPOKED ASTERISKbGREEK CROSS
bHEART EXCLAMATION MARK ORNAMENTbHORIZONTAL FILLbINTERROBANG ORNAMENTbLARGE CIRCLEbLATIN CROSS
bLEFT-POINTING ANGLE BRACKET ORNAMENTdQUOTATION MARK ORNAMENT
bLEFTWARDS ARROW WITH EQUILATERAL ARROWHEADeLARGE EQUILATERAL ARROWHEADbLIGATURE OPEN ET ORNAMENT
bLOW DOUBLE COMMA QUOTATION MARK ORNAMENTcSINGLE COMMA QUOTATION MARK ORNAMENT
bLOWER RIGHT-SHADOWED WHITE RIGHTWARDS ARROWbMINUS SIGNbMULTIPLICATION XbNORTH EAST ARROW
dPOINTING BUDeVINE LEAFcWEST POINTING BUDeVINE LEAFbOPEN CENTRE CROSSbOUTLINED BLACK STAR
bOVAL WITH OVAL INSIDEbPLUS SIGNbRIGHT-POINTING ANGLE BRACKET ORNAMENTdQUOTATION MARK ORNAMENT
bRIGHTWARDS ARROWdWITH EQUILATERAL ARROWHEADeLARGE EQUILATERAL ARROWHEAD
bROUND-TIPPED RIGHTWARDS ARROWbSALTIREbSANS-SERIF INTERROBANG ORNAMENTbSCRIPT LIGATURE ET ORNAMENT
bSINGLE COMMA QUOTATION MARK ORNAMENTcTURNED COMMA QUOTATION MARK ORNAMENTbSIX POINTED BLACK STAR
cSPOKED ASTERISKbSOUTH EAST ARROWdPOINTING BUDeVINE LEAFcWEST POINTING BUDeVINE LEAFbSPARKLE
bTEARDROP-SHANKED RIGHTWARDS ARROWbTEARDROP-SPOKED ASTERISKcPINWHEEL ASTERISK
bTRIANGLE-HEADED RIGHTWARDS ARROWbTWELVE POINTED BLACK STARdPINWHEEL STAR
bUPPER RIGHT-SHADOWED WHITE RIGHTWARDS ARROWbUPWARDS ARROW WITH EQUILATERAL ARROWHEAD
eLARGE EQUILATERAL ARROWHEADbVERTICAL BARbWEDGE-TAILED RIGHTWARDS ARROWbWHITE CIRCLE
cDOWN-POINTING TRIANGLEcSQUAREbWIDE-HEADED RIGHTWARDS ARROWaHEBREW ACCENT ATNAH HAFUKHcDARGAcDEHI
cETNAHTAcGERESHdMUQDAMcGERSHAYIMcILUYcMAHAPAKHcMERKHAdKEFULAcMUNAHcOLEcPASHTAcPAZERcQADMA
cQARNEY PARAcREVIAcSEGOLcSHALSHELETcTELISHA GEDOLAdQETANAcTEVIRcTIPEHAcYERAH BEN YOMOcYETIV
cZAQEF GADOLdQATANcZARQAcZINORbLETTER ALEFdWITH MAPIQePATAHeQAMATScALTERNATIVE AYINdPLUS SIGNcAYIN
cBETdWITH DAGESHeRAFEcDALETdWITH DAGESHcFINAL KAFeWITH DAGESHdMEMdNUNdPEeWITH DAGESHdTSADIcGIMEL
dWITH DAGESHcHEdWITH MAPIQcHETcKAFdWITH DAGESHeRAFEcLAMEDdWITH DAGESHcMEMdWITH DAGESHcNUN
dWITH DAGESHcPEdWITH DAGESHeRAFEcQOFdWITH DAGESHcRESHdWITH DAGESHcSAMEKHdWITH DAGESHcSHIN
dWITH DAGESHfAND SHIN DOTgSIN DOTeSHIN DOTeSIN DOTcTAVdWITH DAGESHcTETdWITH DAGESHcTSADI
dWITH DAGESHcVAVdWITH DAGESHeHOLAMcWIDE ALEFdDALETdFINAL MEMdHEdKAFdLAMEDdRESHdTAVcYODdWITH DAGESH
eHIRIQcZAYINdWITH DAGESHbLIGATURE ALEF LAMEDcYIDDISH DOUBLE VAVeYODdVAV YODdYOD YOD PATAH
bMARK LOWER DOTcMASORA CIRCLEcUPPER DOTbPOINT DAGESH OR MAPIQcHATAF PATAHdQAMATSdSEGOLcHIRIQcHOLAM
dHASER FOR VAVcJUDEO-SPANISH VARIKAcMETEGcPATAHcQAMATSdQATANcQUBUTScRAFEcSEGOLcSHEVAcSHIN DOT
cSIN DOTcTSEREbPUNCTUATION GERESHcGERSHAYIMcMAQAFcNUN HAFUKHAcPASEQcSOF PASUQbYOD TRIANGLE
aHEDGEHOGaHELICOPTERaHELLSCHREIBER PAUSE SYMBOLaHELM SYMBOLaHELMET WITH WHITE CROSS
aHENTAIGANA LETTER A-1cA-2cA-3cA-WOcE-1cE-2cE-3cE-4cE-5cE-6cHA-1cHA-10cHA-11cHA-2cHA-3cHA-4cHA-5
cHA-6cHA-7cHA-8cHA-9cHE-1cHE-2cHE-3cHE-4cHE-5cHE-6cHE-7cHI-1cHI-2cHI-3cHI-4cHI-5cHI-6cHI-7cHO-1
cHO-2cHO-3cHO-4cHO-5cHO-6cHO-7cHO-8cHU-1cHU-2cHU-3cI-1cI-2cI-3cI-4cKA-1cKA-10cKA-11cKA-2cKA-3cKA-4
cKA-5cKA-6cKA-7cKA-8cKA-9cKA-KEcKE-1cKE-2cKE-3cKE-4cKE-5cKE-6cKI-1cKI-2cKI-3cKI-4cKI-5cKI-6cKI-7
cKI-8cKO-1cKO-2cKO-3cKO-KIcKU-1cKU-2cKU-3cKU-4cKU-5cKU-6cKU-7cMA-1cMA-2cMA-3cMA-4cMA-5cMA-6cMA-7
cME-1cME-2cME-MAcMI-1cMI-2cMI-3cMI-4cMI-5cMI-6cMI-7cMO-1cMO-2cMO-3cMO-4cMO-5cMO-6cMU-1cMU-2cMU-3
cMU-4cN-MU-MO-1cN-MU-MO-2cNA-1cNA-2cNA-3cNA-4cNA-5cNA-6cNA-7cNA-8cNA-9cNE-1cNE-2cNE-3cNE-4cNE-5
cNE-6cNE-KOcNI-1cNI-2cNI-3cNI-4cNI-5cNI-6cNI-7cNI-TEcNO-1cNO-2cNO-3cNO-4cNO-5cNU-1cNU-2cNU-3cO-1
cO-2cO-3cRA-1cRA-2cRA-3cRA-4cRE-1cRE-2cRE-3cRE-4cRI-1cRI-2cRI-3cRI-4cRI-5cRI-6cRI-7cRO-1cRO-2cRO-3
cRO-4cRO-5cRO-6cRU-1cRU-2cRU-3cRU-4cRU-5cRU-6cSA-1cSA-2cSA-3cSA-4cSA-5cSA-6cSA-7cSA-8cSE-1cSE-2
cSE-3cSE-4cSE-5cSI-1cSI-2cSI-3cSI-4cSI-5cSI-6cSO-1cSO-2cSO-3cSO-4cSO-5cSO-6cSO-7cSU-1cSU-2cSU-3
cSU-4cSU-5cSU-6cSU-7cSU-8cTA-1cTA-2cTA-3cTA-4cTE-1cTE-2cTE-3cTE-4cTE-5cTE-6cTE-7cTE-8cTE-9cTI-1
cTI-2cTI-3cTI-4cTI-5cTI-6cTI-7cTO-1cTO-2cTO-3cTO-4cTO-5cTO-6cTO-RAcTU-1cTU-2cTU-3cTU-4cTU-TOcU-1
cU-2cU-3cU-4cU-5cWA-1cWA-2cWA-3cWA-4cWA-5cWE-1cWE-2cWE-3cWE-4cWI-1cWI-2cWI-3cWI-4cWI-5cWO-1cWO-2
cWO-3cWO-4cWO-5cWO-6cWO-7cYA-1cYA-2cYA-3cYA-4cYA-5cYA-YOcYO-1cYO-2cYO-3cYO-4cYO-5cYO-6cYU-1cYU-2
cYU-3cYU-4aHERBaHERMITIAN CONJUGATE MATRIXaHEXAGRAM FOR ABUNDANCEcAFTER COMPLETIONcAPPROACH
cBEFORE COMPLETIONcBITING THROUGHcBREAKTHROUGHcCOMING TO MEETcCONFLICTcCONTEMPLATION
cDARKENING OF THE LIGHTcDECREASEcDELIVERANCEcDEVELOPMENTcDIFFICULTY AT THE BEGINNINGcDISPERSION
cDURATIONcENTHUSIASMcFELLOWSHIPcFOLLOWINGcGATHERING TOGETHERcGRACEcGREAT POSSESSIONdPOWER
dPREPONDERANCEdTAMINGcHOLDING TOGETHERcINCREASEcINFLUENCEcINNER TRUTHcINNOCENCEcLIMITATIONcMODESTY
cMOUTH CORNERScOBSTRUCTIONcOPPOSITIONcOPPRESSIONcPEACEcPROGRESScPUSHING UPWARDcRETREATcRETURN
cREVOLUTIONcSMALL PREPONDERANCEdTAMINGcSPLITTING APARTcSTANDSTILLcTHE ABYSMAL WATERdARMY
dAROUSING THUNDERdCAULDRONdCLINGING FIREdCREATIVE HEAVENdFAMILYdGENTLE WINDdJOYOUS LAKE
dKEEPING STILL MOUNTAINdMARRYING MAIDENdRECEPTIVE EARTHdWANDERERdWELLcTREADINGcWAITING
cWORK ON THE DECAYEDcYOUTHFUL FOLLYaHIBISCUSaHIGH BRIGHTNESS SYMBOLbOCTET PRESETbVOLTAGE SIGN
aHIGH-HEELED SHOEaHIGH-SPEED TRAINcWITH BULLET NOSEaHIKING BOOTaHINDU TEMPLEaHIPPOPOTAMUS
aHIRAGANA DIGRAPH YORIbITERATION MARKbLETTER AcARCHAIC WUdYEcBAcBEcBIcBOcBUcDAcDEcDIcDOcDUcEcGAcGE
cGIcGOcGUcHAcHEcHIcHOcHUcIcKAcKEcKIcKOcKUcMAcMEcMIcMOcMUcNcNAcNEcNIcNOcNUcOcPAcPEcPIcPOcPUcRAcRE
cRIcROcRUcSAcSEcSIcSMALL AdEdIdKAdKEdOdTUdUdWAdWEdWIdWOdYAdYOdYUcSOcSUcTAcTEcTIcTOcTUcUcVUcWAcWE
cWIcWOcYAcYOcYUcZAcZEcZIcZOcZUbVOICED ITERATION MARKaHISTORIC SITEaHOCHOaHOLE
aHOLLOW QUILT SQUARE ORNAMENTeIN BLACK SQUAREaHOMOTHETICaHONEY POTaHONEYBEEaHOOKaHOP
aHORIZONTAL BARbBLACK HEXAGONcOCTAGONbELLIPSISbLINE EXTENSIONbMALE WITH STROKE SIGN
bONE EIGHTH BLOCK-1358dBLOCK-2dBLOCK-3dBLOCK-4dBLOCK-5dBLOCK-6dBLOCK-7bSCAN LINE-1cLINE-3cLINE-7
cLINE-9bTAB KEYbTABULATIONcSETcWITH JUSTIFICATIONbTRAFFIC LIGHTaHORSEbFACEbRACINGaHOSPITAL
aHOT BEVERAGEbDOGbPEPPERbSPRINGSaHOTELaHOURGLASSbWITH FLOWING SANDaHOUSEbBUILDINGbBUILDINGS
bWITH GARDENaHRYVNIA SIGNaHTaHTJaHTSaHUGGING FACEaHUNDRED POINTS SYMBOLaHUSHED FACEaHUTaHYGIEA
aHYPHENbBULLETbWITH DIAERESISaHYPHEN-MINUSaHYPHENATION POINTaHYPODIASTOLEaHYSTERESIS SYMBOL
aI LOVE YOU HAND SIGNaICE CREAMbCUBEbHOCKEY STICK AND PUCKbSKATEaIDENTICAL TOcAND SLANTED PARALLEL
bWITH DOT ABOVEaIDENTIFICATION CARDaIDEOGRAPHIC ANNOTATION BOTTOM MARKcEARTH MARKcFIRST MARK
cFOUR MARKcFOURTH MARKcHEAVEN MARKcLINKING MARKcMAN MARKcMIDDLE MARKcONE MARKcREVERSE MARK
cSECOND MARKcTHIRD MARKcTHREE MARKcTOP MARKcTWO MARKbCLOSING MARKbCOMMAbDEPARTING TONE MARK
bDESCRIPTION CHARACTER ABOVE TO BELOWfMIDDLE AND BELOWdFULL SURROUNDdLEFT TO MIDDLE AND RIGHT
fRIGHTdOVERLAIDdSURROUND FROM ABOVEfBELOWfLEFTfLOWER LEFTfUPPER LEFTgRIGHTbENTERING TONE MARK
bFULL STOPbHALF FILL SPACEbITERATION MARKbLEVEL TONE MARKbNUMBER ZERObRISING TONE MARKbSPACE
bTALLY MARK FIVEdFOURdONEdTHREEdTWObTELEGRAPH LINE FEED SEPARATOR SYMBOLcSYMBOL FOR APRILeAUGUST
eDAY EIGHTfEIGHTEENfELEVENfFIFTEENfFIVEfFOURfFOURTEENfNINEfNINETEENfONEfSEVENfSEVENTEENfSIX
fSIXTEENfTENfTHIRTEENfTHIRTYfTHIRTY-ONEfTHREEfTWELVEfTWENTYfTWENTY-EIGHTfTWENTY-FIVEfTWENTY-FOUR
fTWENTY-NINEfTWENTY-ONEfTWENTY-SEVENfTWENTY-SIXfTWENTY-THREEfTWENTY-TWOfTWOeDECEMBEReFEBRUARY
eHOUR EIGHTfEIGHTEENfELEVENfFIFTEENfFIVEfFOURfFOURTEENfNINEfNINETEENfONEfSEVENfSEVENTEENfSIX
fSIXTEENfTENfTHIRTEENfTHREEfTWELVEfTWENTYfTWENTY-FOURfTWENTY-ONEfTWENTY-THREEfTWENTY-TWOfTWOfZERO
eJANUARYeJULYeJUNEeMARCHeMAYeNOVEMBEReOCTOBEReSEPTEMBERbVARIATION INDICATORaIMAGE OF
cOR APPROXIMATELY EQUAL TOaIMPaIMPERIAL ARAMAIC LETTER ALEPHdAYINdBETHdDALETHdGIMELdHEdHETHdKAPH
dLAMEDHdMEMdNUNdPEdQOPHdRESHdSADHEdSAMEKHdSHINdTAWdTETHdWAWdYODHdZAYINcNUMBER ONEeHUNDREDeTHOUSAND
dTENeTHOUSANDdTHREEdTWENTYdTWOcSECTION SIGNaINBOX TRAYaINCOMING ENVELOPEaINCOMPLETE INFINITY
aINCREASE FONT SIZE SYMBOLaINCREASES ASaINCREMENTaINDaINDEXbPOINTING AT THE VIEWER
aINDIAN RUPEE SIGNaINDIC SIYAQ ALTERNATE LAKH MARKcFRACTION ONE HALFeQUARTERdTHREE QUARTERS
cLAKH MARKcNUMBER ALTERNATE ONEeTEN THOUSANDeTWOdEIGHTeHUNDREDeTHOUSANDdEIGHTYeTHOUSANDdFIFTY
eTHOUSANDdFIVEeHUNDREDeTHOUSANDdFORTYeTHOUSANDdFOUReHUNDREDeTHOUSANDdKARORdKARORANdLAKHdLAKHAN
dNINEeHUNDREDeTHOUSANDdNINETYeTHOUSANDdONEeHUNDREDeTHOUSANDdPREFIXED EIGHTeFIVEeFOUReNINEeONE
eSEVENeSIXeTHREEeTWOdSEVENeHUNDREDeTHOUSANDdSEVENTYeTHOUSANDdSIXeHUNDREDeTHOUSANDdSIXTYeTHOUSAND
dTENeTHOUSANDdTHIRTYeTHOUSANDdTHREEeHUNDREDeTHOUSANDdTWENTYeTHOUSANDdTWOeHUNDREDeTHOUSAND
cPLACEHOLDERcRUPEE MARKaINFINITYbNEGATED WITH VERTICAL BARaINFORMATION DESK PERSONbSEPARATOR FOUR
cONEcTHREEcTWObSOURCEaINHIBIT ARABIC FORM SHAPINGbSYMMETRIC SWAPPING
aINPUT SYMBOL FOR LATIN CAPITAL LETTERSeLETTERSeSMALL LETTERSdNUMBERSdSYMBOLS
aINSCRIPTIONAL PAHLAVI LETTER ALEPHdBETHdDALETHdGIMELdHEdHETHdKAPHdLAMEDHdMEM-QOPHdNUNdPEdSADHE
dSAMEKHdSHINdTAWdTETHdWAW-AYIN-RESHdYODHdZAYINcNUMBER FOURdONEeHUNDREDeTHOUSANDdTENdTHREEdTWENTY
dTWObPARTHIAN LETTER ALEPHdAYINdBETHdDALETHdGIMELdHEdHETHdKAPHdLAMEDHdMEMdNUNdPEdQOPHdRESHdSADHE
dSAMEKHdSHINdTAWdTETHdWAWdYODHdZAYINcNUMBER FOURdONEeHUNDREDeTHOUSANDdTENdTHREEdTWENTYdTWO
aINSERTION SYMBOLaINTEGRALbAROUND A POINT OPERATORbAVERAGE WITH SLASHbEXTENSIONbWITH DOUBLE STROKE
cINTERSECTIONcLEFTWARDS ARROW WITH HOOKcOVERBARcTIMES SIGNcUNDERBARcUNIONaINTERCALATE
aINTERIOR PRODUCTaINTERLINEAR ANNOTATION ANCHORcSEPARATORcTERMINATOR
aINTERLOCKED FEMALE AND MALE SIGNaINTERROBANGaINTERSECTIONbABOVE BAR ABOVE UNIONcUNION
bBESIDE AND JOINED WITH INTERSECTIONbWITH DOTcLOGICAL ANDcOVERBARaINVERSE BULLETbCHECK MARK
bCHECKER BOARD FILLbDOWNWARDS ARROW WITH TIP LEFTWARDSbMEDIUM SHADEbWHITE CIRCLE
aINVERTED EXCLAMATION MARKbINTERROBANGbLAZY SbLOW KAVYKAdWITH KAVYKA ABOVEbOHM SIGNbPENTAGRAM
bQUESTION MARKbUNDERTIEaINVISIBLE PLUSbSEPARATORbTIMESaIZAKAYA LANTERNaJACK-O-LANTERN
aJAPANESE BANK SYMBOLbCASTLEbDOLLSbGOBLINbINDUSTRIAL STANDARD SYMBOLbOGREbPOST OFFICE
bSYMBOL FOR BEGINNERaJARaJAVANESE CONSONANT SIGN CAKRAdKERETdPENGKALbDIGIT EIGHTcFIVEcFOURcNINE
cONEcSEVENcSIXcTHREEcTWOcZERObLEFT RERENGGANbLETTER AcAIcBAdMURDAcCAdMURDAcDAdMAHAPRANAcDDA
dMAHAPRANAcEcGAdMURDAcHAcIdKAWIcIIcJAdMAHAPRANAcKAdMURDAdSASAKcLAcMAcNAdMURDAcNGAdLELETeRASWADI
cNYAdMURDAcOcPAdCEREKdMURDAcRAdAGUNGcSAdMAHAPRANAdMURDAcTAdMURDAcTTAdMAHAPRANAcUcWAcYAbPADA ADEG
dADEGcANDAPcISEN-ISENcLINGSAcLUHURcLUNGSIcMADYAcPANGKATcPISELEHcTIRTA TUMETEScWINDUbPANGKON
bPANGRANGKEPbRIGHT RERENGGANbSIGN CECAKdTELUcLAYARcPANYANGGAcWIGNYANbTURNED PADA PISELEH
bVOWEL SIGN DIRGA MUREdPEPETdSUKUeMENDUTdTALINGdTARUNGdTOLONGdWULUeMELIKaJEANSaJIGSAW PUZZLE PIECE
aJOINaJOYSTICKaJUGGLINGaJUNOaJUPITERaKAABAaKAITHI ABBREVIATION SIGNbDANDAbDOUBLE DANDA
cSECTION MARKbENUMERATION SIGNbLETTER AcAAcAIcAUcBAcBHAcCAcCHAcDAcDDAcDDDHAcDDHAcDHAcEcGAcGHAcHAcI
cIIcJAcJHAcKAcKHAcLAcMAcNAcNGAcNNAcNYAcOcPAcPHAcRAcRHAcSAcSHAcSSAcTAcTHAcTTAcTTHAcUcUUcVAcYA
bNUMBER SIGNdABOVEbSECTION MARKbSIGN ANUSVARAcCANDRABINDUcNUKTAcVIRAMAcVISARGAbVOWEL SIGN AAdAIdAU
dEdIdIIdOdUdUUdVOCALIC RaKANGAROOaKANGXI RADICAL AGAINcANDcARRIVEcARROWcAXEcBADGERcBAMBOOcBEANcBIG
cBIRDcBITTERcBLACKcBLOODcBLUEcBOATcBODYcBOLT OF CLOTHcBONEcBOWcBRANCHcBRISTLEcBRUSHcCARTcCAULDRON
cCAVEcCHILDcCITYcCLANcCLAWcCLIFFcCLOTHEScCOLORcCOMPAREcCORPSEcCOVERcCOWcDEATHcDEERcDIPPERcDISH
cDISTINGUISHcDIVINATIONcDO NOTcDOGcDOORcDOTcDOTTED CLIFFdTENTcDOUBLE XcDOWN BOXcDRAGONcDRUMcDRY
cEARcEARTHcEATcEIGHTcEMBROIDERYcENCLOSUREcENTERcEVENcEVENINGcEYEcFACEcFANGcFATHERcFEATHERcFIELD
cFIGHTcFIREcFISHcFLUTEcFLYcFOOTcFRAGRANTcFROGcFURcGATEcGHOSTcGOdSLOWLYcGOLDcGRAINcGRASScHAIR
cHALBERDcHALF TREE TRUNKcHANDcHEADcHEARTcHEMPcHIDING ENCLOSUREcHOOKcHORNcHORSEcICEcINCHcINSECT
cJADEcJARcKNIFEcLACKcLAMEcLEAFcLEATHERcLEEKcLEGScLIDcLIFEcLINEcLONGdSTRIDEcMANcMEATcMELONcMILLET
cMINISTERcMOONcMORNINGcMORTARcMOUNDcMOUNTAINcMOUTHcNETcNOSEcNOTcOLDcONEcONESELFcOPEN BOXcOPPOSE
cPIGcPLOWcPOWERcPRIVATEcPROFOUNDcRAINcRAPcRATcREDcRICEcRIGHT OPEN BOXcRIVERcROOFcRUN
cSACRIFICIAL WINEcSALTcSAYcSCHOLARcSCRIPTcSEALcSECONDcSEEcSELFcSHEEPcSHELLcSHOOTcSHORT TAILED BIRD
dTHREADcSICKNESScSILKcSKINcSLASHcSLAVEcSLICEcSMALLcSNOUTcSOUNDcSPEARcSPEECHcSPIRITcSPOONcSPROUT
cSQUAREcSTANDcSTEAMcSTEPcSTONEcSTOPcSTOPPINGcSUNcSWEETcTABLEcTALLcTANNED LEATHERcTENcTIGERcTILE
cTONGUEcTOOTHcTRACKcTREEcTRIPODcTURBANcTURTLEcTWOdHANDScUSEcVALLEYcVILLAGEcWALKdENCLOSUREcWATER
cWEAPONcWESTcWHEATcWHITEcWINDcWINEcWOMANcWORKcWRAPcWRONGcYELLOWaKANNADA AI LENGTH MARKbDIGIT EIGHT
cFIVEcFOURcNINEcONEcSEVENcSIXcTHREEcTWOcZERObLENGTH MARKbLETTER AcAAcAIcAUcBAcBHAcCAcCHAcDAcDDA
cDDHAcDHAcEcEEcFAcGAcGHAcHAcIcIIcJAcJHAcKAcKHAcLAcLLAcLLLAcMAcNAcNAKAARA POLLUcNGAcNNAcNYAcOcOOcPA
cPHAcRAcRRAcSAcSHAcSSAcTAcTHAcTTAcTTHAcUcUUcVAcVOCALIC LdLLdRdRRcYAbSIGN ANUSVARAcAVAGRAHA
cCANDRABINDUcJIHVAMULIYAcNUKTAcSIDDHAMcSPACING CANDRABINDUcUPADHMANIYAcVIRAMAcVISARGA
bVOWEL SIGN AAdAIdAUdEdEEdIdIIdOdOOdUdUUdVOCALIC LeLLeReRRaKATAKANA DIGRAPH KOTObITERATION MARK
bLETTER AcARCHAIC EdWUdYEdYIcBAcBEcBIcBOcBUcDAcDEcDIcDOcDUcEcGAcGEcGIcGOcGUcHAcHEcHIcHOcHUcIcKAcKE
cKIcKOcKUcMAcMEcMIcMINNAN NASALIZED TONE-1eTONE-2eTONE-3eTONE-4eTONE-5eTONE-7eTONE-8dTONE-2dTONE-3
dTONE-4dTONE-5dTONE-7dTONE-8cMOcMUcNcNAcNEcNIcNOcNUcOcPAcPEcPIcPOcPUcRAcREcRIcROcRUcSAcSEcSI
cSMALL AdEdHAdHEdHIdHOdHUdIdKAdKEdKUdMUdNdNUdOdRAdREdRIdROdRUdSIdSUdTOdTUdUdWAdWEdWIdWOdYAdYOdYU
cSOcSUcTAcTEcTIcTOcTUcUcVAcVEcVIcVOcVUcWAcWEcWIcWOcYAcYOcYUcZAcZEcZIcZOcZUbMIDDLE DOT
bVOICED ITERATION MARKaKATAKANA-HIRAGANA DOUBLE HYPHENbPROLONGED SOUND MARKbSEMI-VOICED SOUND MARK
bVOICED SOUND MARKaKAYAH LI DIGIT EIGHTdFIVEdFOURdNINEdONEdSEVENdSIXdTHREEdTWOdZEROcLETTER AdBAdCA
dDAdGAdHAdHTAdIdKAdKHAdLAdMAdNAdNGAdNYAdOEdOOdPAdPHAdRAdSAdSHAdTAdTHAdVAdWAdYAdZAcSIGN CWIdSHYA
cTONE CALYAePLOPHUdPLOPHUcVOWEL EdEEdOdUdUEaKELVIN SIGNaKEYaKEYBOARDbAND MOUSEaKEYCAP TEN
aKHAROSHTHI DIGIT FOURcONEcTHREEcTWObFRACTION ONE HALFbLETTER AcBAcBHAcCAcCHAcDAcDDAcDDHAcDHAcGA
cGHAcHAcJAcKAcKHAcKKAcLAcMAcNAcNNAcNYAcPAcPHAcRAcSAcSHAcSSAcTAcTHAcTTAcTTHAcTTTAcTTTHAcVAcVHAcYA
cZAbNUMBER ONE HUNDREDdTHOUSANDcTENcTWENTYbPUNCTUATION CIRCLEcCRESCENT BARcDANDAcDOTcDOUBLE DANDA
cLINEScLOTUScMANGALAMcSMALL CIRCLEbSIGN ANUSVARAcBAR ABOVEcCAUDAcDOT BELOWcDOUBLE RING BELOW
cVISARGAbVIRAMAbVOWEL LENGTH MARKcSIGN EdIdOdUdVOCALIC RaKHITAN SMALL SCRIPT CHARACTER-18B00
dCHARACTER-18B01dCHARACTER-18B02dCHARACTER-18B03dCHARACTER-18B04dCHARACTER-18B05dCHARACTER-18B06
dCHARACTER-18B07dCHARACTER-18B08dCHARACTER-18B09dCHARACTER-18B0AdCHARACTER-18B0BdCHARACTER-18B0C
dCHARACTER-18B0DdCHARACTER-18B0EdCHARACTER-18B0FdCHARACTER-18B10dCHARACTER-18B11dCHARACTER-18B12
dCHARACTER-18B13dCHARACTER-18B14dCHARACTER-18B15dCHARACTER-18B16dCHARACTER-18B17dCHARACTER-18B18
dCHARACTER-18B19dCHARACTER-18B1AdCHARACTER-18B1BdCHARACTER-18B1CdCHARACTER-18B1DdCHARACTER-18B1E
dCHARACTER-18B1FdCHARACTER-18B20dCHARACTER-18B21dCHARACTER-18B22dCHARACTER-18B23dCHARACTER-18B24
dCHARACTER-18B25dCHARACTER-18B26dCHARACTER-18B27dCHARACTER-18B28dCHARACTER-18B29dCHARACTER-18B2A
dCHARACTER-18B2BdCHARACTER-18B2CdCHARACTER-18B2DdCHARACTER-18B2EdCHARACTER-18B2FdCHARACTER-18B30
dCHARACTER-18B31dCHARACTER-18B32dCHARACTER-18B33dCHARACTER-18B34dCHARACTER-18B35dCHARACTER-18B36
dCHARACTER-18B37dCHARACTER-18B38dCHARACTER-18B39dCHARACTER-18B3AdCHARACTER-18B3BdCHARACTER-18B3C
dCHARACTER-18B3DdCHARACTER-18B3EdCHARACTER-18B3FdCHARACTER-18B40dCHARACTER-18B41dCHARACTER-18B42
dCHARACTER-18B43dCHARACTER-18B44dCHARACTER-18B45dCHARACTER-18B46dCHARACTER-18B47dCHARACTER-18B48
dCHARACTER-18B49dCHARACTER-18B4AdCHARACTER-18B4BdCHARACTER-18B4CdCHARACTER-18B4DdCHARACTER-18B4E
dCHARACTER-18B4FdCHARACTER-18B50dCHARACTER-18B51dCHARACTER-18B52dCHARACTER-18B53dCHARACTER-18B54
dCHARACTER-18B55dCHARACTER-18B56dCHARACTER-18B57dCHARACTER-18B58dCHARACTER-18B59dCHARACTER-18B5A
dCHARACTER-18B5BdCHARACTER-18B5CdCHARACTER-18B5DdCHARACTER-18B5EdCHARACTER-18B5FdCHARACTER-18B60
dCHARACTER-18B61dCHARACTER-18B62dCHARACTER-18B63dCHARACTER-18B64dCHARACTER-18B65dCHARACTER-18B66
dCHARACTER-18B67dCHARACTER-18B68dCHARACTER-18B69dCHARACTER-18B6AdCHARACTER-18B6BdCHARACTER-18B6C
dCHARACTER-18B6DdCHARACTER-18B6EdCHARACTER-18B6FdCHARACTER-18B70dCHARACTER-18B71dCHARACTER-18B72
dCHARACTER-18B73dCHARACTER-18B74dCHARACTER-18B75dCHARACTER-18B76dCHARACTER-18B77dCHARACTER-18B78
dCHARACTER-18B79dCHARACTER-18B7AdCHARACTER-18B7BdCHARACTER-18B7CdCHARACTER-18B7DdCHARACTER-18B7E
dCHARACTER-18B7FdCHARACTER-18B80dCHARACTER-18B81dCHARACTER-18B82dCHARACTER-18B83dCHARACTER-18B84
dCHARACTER-18B85dCHARACTER-18B86dCHARACTER-18B87dCHARACTER-18B88dCHARACTER-18B89dCHARACTER-18B8A
dCHARACTER-18B8BdCHARACTER-18B8CdCHARACTER-18B8DdCHARACTER-18B8EdCHARACTER-18B8FdCHARACTER-18B90
dCHARACTER-18B91dCHARACTER-18B92dCHARACTER-18B93dCHARACTER-18B94dCHARACTER-18B95dCHARACTER-18B96
dCHARACTER-18B97dCHARACTER-18B98dCHARACTER-18B99dCHARACTER-18B9AdCHARACTER-18B9BdCHARACTER-18B9C
dCHARACTER-18B9DdCHARACTER-18B9EdCHARACTER-18B9FdCHARACTER-18BA0dCHARACTER-18BA1dCHARACTER-18BA2
dCHARACTER-18BA3dCHARACTER-18BA4dCHARACTER-18BA5dCHARACTER-18BA6dCHARACTER-18BA7dCHARACTER-18BA8
dCHARACTER-18BA9dCHARACTER-18BAAdCHARACTER-18BABdCHARACTER-18BACdCHARACTER-18BADdCHARACTER-18BAE
dCHARACTER-18BAFdCHARACTER-18BB0dCHARACTER-18BB1dCHARACTER-18BB2dCHARACTER-18BB3dCHARACTER-18BB4
dCHARACTER-18BB5dCHARACTER-18BB6dCHARACTER-18BB7dCHARACTER-18BB8dCHARACTER-18BB9dCHARACTER-18BBA
dCHARACTER-18BBBdCHARACTER-18BBCdCHARACTER-18BBDdCHARACTER-18BBEdCHARACTER-18BBFdCHARACTER-18BC0
dCHARACTER-18BC1dCHARACTER-18BC2dCHARACTER-18BC3dCHARACTER-18BC4dCHARACTER-18BC5dCHARACTER-18BC6
dCHARACTER-18BC7dCHARACTER-18BC8dCHARACTER-18BC9dCHARACTER-18BCAdCHARACTER-18BCBdCHARACTER-18BCC
dCHARACTER-18BCDdCHARACTER-18BCEdCHARACTER-18BCFdCHARACTER-18BD0dCHARACTER-18BD1dCHARACTER-18BD2
dCHARACTER-18BD3dCHARACTER-18BD4dCHARACTER-18BD5dCHARACTER-18BD6dCHARACTER-18BD7dCHARACTER-18BD8
dCHARACTER-18BD9dCHARACTER-18BDAdCHARACTER-18BDBdCHARACTER-18BDCdCHARACTER-18BDDdCHARACTER-18BDE
dCHARACTER-18BDFdCHARACTER-18BE0dCHARACTER-18BE1dCHARACTER-18BE2dCHARACTER-18BE3dCHARACTER-18BE4
dCHARACTER-18BE5dCHARACTER-18BE6dCHARACTER-18BE7dCHARACTER-18BE8dCHARACTER-18BE9dCHARACTER-18BEA
dCHARACTER-18BEBdCHARACTER-18BECdCHARACTER-18BEDdCHARACTER-18BEEdCHARACTER-18BEFdCHARACTER-18BF0
dCHARACTER-18BF1dCHARACTER-18BF2dCHARACTER-18BF3dCHARACTER-18BF4dCHARACTER-18BF5dCHARACTER-18BF6
dCHARACTER-18BF7dCHARACTER-18BF8dCHARACTER-18BF9dCHARACTER-18BFAdCHARACTER-18BFBdCHARACTER-18BFC
dCHARACTER-18BFDdCHARACTER-18BFEdCHARACTER-18BFFdCHARACTER-18C00dCHARACTER-18C01dCHARACTER-18C02
dCHARACTER-18C03dCHARACTER-18C04dCHARACTER-18C05dCHARACTER-18C06dCHARACTER-18C07dCHARACTER-18C08
dCHARACTER-18C09dCHARACTER-18C0AdCHARACTER-18C0BdCHARACTER-18C0CdCHARACTER-18C0DdCHARACTER-18C0E
dCHARACTER-18C0FdCHARACTER-18C10dCHARACTER-18C11dCHARACTER-18C12dCHARACTER-18C13dCHARACTER-18C14
dCHARACTER-18C15dCHARACTER-18C16dCHARACTER-18C17dCHARACTER-18C18dCHARACTER-18C19dCHARACTER-18C1A
dCHARACTER-18C1BdCHARACTER-18C1CdCHARACTER-18C1DdCHARACTER-18C1EdCHARACTER-18C1FdCHARACTER-18C20
dCHARACTER-18C21dCHARACTER-18C22dCHARACTER-18C23dCHARACTER-18C24dCHARACTER-18C25dCHARACTER-18C26
dCHARACTER-18C27dCHARACTER-18C28dCHARACTER-18C29dCHARACTER-18C2AdCHARACTER-18C2BdCHARACTER-18C2C
dCHARACTER-18C2DdCHARACTER-18C2EdCHARACTER-18C2FdCHARACTER-18C30dCHARACTER-18C31dCHARACTER-18C32
dCHARACTER-18C33dCHARACTER-18C34dCHARACTER-18C35dCHARACTER-18C36dCHARACTER-18C37dCHARACTER-18C38
dCHARACTER-18C39dCHARACTER-18C3AdCHARACTER-18C3BdCHARACTER-18C3CdCHARACTER-18C3DdCHARACTER-18C3E
dCHARACTER-18C3FdCHARACTER-18C40dCHARACTER-18C41dCHARACTER-18C42dCHARACTER-18C43dCHARACTER-18C44
dCHARACTER-18C45dCHARACTER-18C46dCHARACTER-18C47dCHARACTER-18C48dCHARACTER-18C49dCHARACTER-18C4A
dCHARACTER-18C4BdCHARACTER-18C4CdCHARACTER-18C4DdCHARACTER-18C4EdCHARACTER-18C4FdCHARACTER-18C50
dCHARACTER-18C51dCHARACTER-18C52dCHARACTER-18C53dCHARACTER-18C54dCHARACTER-18C55dCHARACTER-18C56
dCHARACTER-18C57dCHARACTER-18C58dCHARACTER-18C59dCHARACTER-18C5AdCHARACTER-18C5BdCHARACTER-18C5C
dCHARACTER-18C5DdCHARACTER-18C5EdCHARACTER-18C5FdCHARACTER-18C60dCHARACTER-18C61dCHARACTER-18C62
dCHARACTER-18C63dCHARACTER-18C64dCHARACTER-18C65dCHARACTER-18C66dCHARACTER-18C67dCHARACTER-18C68
dCHARACTER-18C69dCHARACTER-18C6AdCHARACTER-18C6BdCHARACTER-18C6CdCHARACTER-18C6DdCHARACTER-18C6E
dCHARACTER-18C6FdCHARACTER-18C70dCHARACTER-18C71dCHARACTER-18C72dCHARACTER-18C73dCHARACTER-18C74
dCHARACTER-18C75dCHARACTER-18C76dCHARACTER-18C77dCHARACTER-18C78dCHARACTER-18C79dCHARACTER-18C7A
dCHARACTER-18C7BdCHARACTER-18C7CdCHARACTER-18C7DdCHARACTER-18C7EdCHARACTER-18C7FdCHARACTER-18C80
dCHARACTER-18C81dCHARACTER-18C82dCHARACTER-18C83dCHARACTER-18C84dCHARACTER-18C85dCHARACTER-18C86
dCHARACTER-18C87dCHARACTER-18C88dCHARACTER-18C89dCHARACTER-18C8AdCHARACTER-18C8BdCHARACTER-18C8C
dCHARACTER-18C8DdCHARACTER-18C8EdCHARACTER-18C8FdCHARACTER-18C90dCHARACTER-18C91dCHARACTER-18C92
dCHARACTER-18C93dCHARACTER-18C94dCHARACTER-18C95dCHARACTER-18C96dCHARACTER-18C97dCHARACTER-18C98
dCHARACTER-18C99dCHARACTER-18C9AdCHARACTER-18C9BdCHARACTER-18C9CdCHARACTER-18C9DdCHARACTER-18C9E
dCHARACTER-18C9FdCHARACTER-18CA0dCHARACTER-18CA1dCHARACTER-18CA2dCHARACTER-18CA3dCHARACTER-18CA4
dCHARACTER-18CA5dCHARACTER-18CA6dCHARACTER-18CA7dCHARACTER-18CA8dCHARACTER-18CA9dCHARACTER-18CAA
dCHARACTER-18CABdCHARACTER-18CACdCHARACTER-18CADdCHARACTER-18CAEdCHARACTER-18CAFdCHARACTER-18CB0
dCHARACTER-18CB1dCHARACTER-18CB2dCHARACTER-18CB3dCHARACTER-18CB4dCHARACTER-18CB5dCHARACTER-18CB6
dCHARACTER-18CB7dCHARACTER-18CB8dCHARACTER-18CB9dCHARACTER-18CBAdCHARACTER-18CBBdCHARACTER-18CBC
dCHARACTER-18CBDdCHARACTER-18CBEdCHARACTER-18CBFdCHARACTER-18CC0dCHARACTER-18CC1dCHARACTER-18CC2
dCHARACTER-18CC3dCHARACTER-18CC4dCHARACTER-18CC5dCHARACTER-18CC6dCHARACTER-18CC7dCHARACTER-18CC8
dCHARACTER-18CC9dCHARACTER-18CCAdCHARACTER-18CCBdCHARACTER-18CCCdCHARACTER-18CCDdCHARACTER-18CCE
dCHARACTER-18CCFdCHARACTER-18CD0dCHARACTER-18CD1dCHARACTER-18CD2dCHARACTER-18CD3dCHARACTER-18CD4
dCHARACTER-18CD5dFILLERaKHMER CURRENCY SYMBOL RIELbDIGIT EIGHTcFIVEcFOURcNINEcONEcSEVENcSIXcTHREE
cTWOcZERObINDEPENDENT VOWEL LYdLYYdQAAdQAIdQAQdQAUdQEdQIdQIIdQOO TYPE ONEfTWOdQUdQUKdQUUdQUUVdRY
dRYYbLETTER BAcCAcCHAcCHOcCOcDAcDOcHAcKAcKHAcKHOcKOcLAcLOcMOcNGOcNNOcNOcNYOcPHAcPHOcPOcQAcROcSA
cSHAcSSOcTAcTHAcTHOcTOcTTHAcTTHOcVOcYObSIGN AHSDAcATTHACANcAVAKRAHASANYAcBANTOCcBARIYOOSAN
cBATHAMASATcBEYYALcCAMNUC PII KUUHcCOENGcKAKABATcKHANcKOOMUUTcLEK TOOcMUUSIKATOANcNIKAHIT
cPHNAEK MUANcREAHMUKcROBATcSAMYOK SANNYAcTOANDAKHIATcTRIISAPcVIRIAMcYUUKALEAPINTUbSYMBOL BEI KOET
dROCcBUON KOETdROCcDAP KOETdROCcDAP-BEI KOETdROCcDAP-BUON KOETdROCcDAP-MUOY KOETdROCcDAP-PII KOET
dROCcDAP-PRAM KOETdROCcLEK ATTAK BEIeBUONeMUOYePIIePRAMePRAM-BEIePRAM-BUONePRAM-MUOYePRAM-PIIeSON
cMUOY KOETdROCcPATHAMASATcPII KOETdROCcPRAM KOETdROCcPRAM-BEI KOETdROCcPRAM-BUON KOETdROC
cPRAM-MUOY KOETdROCcPRAM-PII KOETdROCcTUTEYASATbVOWEL INHERENT AAdAQcSIGN AAdAEdAIdAUdEdIdIEdIIdOE
dOOdUdUAdUUdYdYAdYYaKHOJKI ABBREVIATION SIGNbDANDAbDOUBLE DANDAcSECTION MARKbLETTER AcAAcAIcAUcBA
cBBAcBHAcCAcCHAcDAcDDAcDDDAcDDHAcDHAcEcGAcGGAcGHAcHAcIcJAcJJAcKAcKHAcLAcLLAcMAcNAcNGAcNNAcNYAcOcPA
cPHAcRAcSAcTAcTHAcTTAcTTHAcUcVAcYAbSECTION MARKbSIGN ANUSVARAcNUKTAcSHADDAcSUKUNcVIRAMA
bVOWEL SIGN AAdAIdAUdEdIdIIdOdUbWORD SEPARATORaKHUDAWADI DIGIT EIGHTcFIVEcFOURcNINEcONEcSEVENcSIX
cTHREEcTWOcZERObLETTER AcAAcAIcAUcBAcBBAcBHAcCAcCHAcDAcDDAcDDDAcDDHAcDHAcEcGAcGGAcGHAcHAcIcIIcJA
cJHAcJJAcKAcKHAcLAcMAcNAcNGAcNNAcNYAcOcPAcPHAcRAcRRAcSAcSHAcTAcTHAcTTAcTTHAcUcUUcVAcYA
bSIGN ANUSVARAcNUKTAcVIRAMAbVOWEL SIGN AAdAIdAUdEdIdIIdOdUdUUaKIMONOaKIP SIGNaKISSbMARK
aKISSING CAT FACE WITH CLOSED EYESbFACEcWITH CLOSED EYESdSMILING EYESaKITEaKIWIFRUIT
aKNEELING PERSONaKNOTaKOALAaKOREAN STANDARD SYMBOLaKRONOSaL B BAR SYMBOLaLAB COATaLABEL
aLACROSSE STICK AND BALLaLADDERaLADY BEETLEaLANGUAGE TAGaLAO CANCELLATION MARKbDIGIT EIGHTcFIVE
cFOURcNINEcONEcSEVENcSIXcTHREEcTWOcZERObELLIPSISbHO MOcNObKO LAbLETTER BOcCOcDOcFO FAYdFONdSUNG
dTAMcHO SUNGdTAMcKHMU GOdNYOcKHO SUNGdTAMcKOcLOdLINGdLOOTcMOcNGOcNOcNYOcOcPALI BHAdCHAdDDAdDDHA
dDHAdGHAdJHAdLLAdNNAdNYAdTTAdTTHAcPHO SUNGdTAMcPOcROcSANSKRIT SHAdSSAcSO SUNGdTAMcTHO SUNGdTAMcTO
cWOcYObNIGGAHITAbSEMIVOWEL SIGN LOdNYObSIGN PALI VIRAMAbTONE MAI CATAWAdEKdTHOdTIbVOWEL SIGN AdAA
dAIdAMdAYdEdEIdIdIIdMAI KANeKONdOdUdUUdYdYYaLARGE BLUE CIRCLEcDIAMONDcSQUAREbBROWN CIRCLEcSQUARE
bCIRCLEbDOWN TACKbGREEN CIRCLEcSQUAREbLEFT TRIANGLE OPERATORbONE DOT OVER TWO DOTS PUNCTUATION
cRING OVER TWO RINGS PUNCTUATIONbORANGE CIRCLEcDIAMONDcSQUAREbPURPLE CIRCLEcSQUAREbRED CIRCLE
cSQUAREbTRIPLE VERTICAL BAR OPERATORbTWO DOTS OVER ONE DOT PUNCTUATION
cRINGS OVER ONE RING PUNCTUATIONbUP TACKbYELLOW CIRCLEcSQUAREaLARGER THANcOR EQUAL TOaLARI SIGN
aLAST QUARTER MOONdSYMBOLdWITH FACEaLATIN CAPITAL LETTER AeWITH ACUTEfBREVEgAND ACUTEhDOT BELOW
hGRAVEhHOOK ABOVEhTILDEfCARONfCIRCUMFLEXgAND ACUTEhDOT BELOWhGRAVEhHOOK ABOVEhTILDEfDIAERESIS
gAND MACRONfDOT ABOVEhAND MACRONgBELOWfDOUBLE GRAVEfGRAVEfHOOK ABOVEfINVERTED BREVEfMACRONfOGONEK
fRING ABOVEhAND ACUTEgBELOWfSTROKEfTILDEdAAdAEeWITH ACUTEfMACRONdAFRICAN DdALPHAdANGLICANA WdAOdAU
dAVeWITH HORIZONTAL BARdAYdBeWITH DOT ABOVEgBELOWfFLOURISHfHOOKfLINE BELOWfSTROKEfTOPBARdBETA
dBROKEN LdCeWITH ACUTEfBARfCARONfCEDILLAgAND ACUTEfCIRCUMFLEXfDOT ABOVEfHOOKfPALATAL HOOKfSTROKE
dCHIdCLOSED INSULAR GdCONdCUATRILLOeWITH COMMAdDeWITH CARONfCEDILLAfCIRCUMFLEX BELOWfDOT ABOVE
gBELOWfHOOKfLINE BELOWfSHORT STROKE OVERLAYfSMALL LETTER ZiWITH CARONfSTROKEfTOPBARdDZeWITH CARON
dEeWITH ACUTEfBREVEfCARONfCEDILLAgAND BREVEfCIRCUMFLEXgAND ACUTEhDOT BELOWhGRAVEhHOOK ABOVEhTILDE
gBELOWfDIAERESISfDOT ABOVEgBELOWfDOUBLE GRAVEfGRAVEfHOOK ABOVEfINVERTED BREVEfMACRONgAND ACUTE
hGRAVEfOGONEKfSTROKEfTILDEgBELOWdEGYPTOLOGICAL AINeALEFdENGdESHdETdETHdEZHeREVERSEDeWITH CARONdF
eWITH DOT ABOVEfHOOKfSTROKEdGeWITH ACUTEfBREVEfCARONfCEDILLAfCIRCUMFLEXfDOT ABOVEfHOOKfMACRON
fOBLIQUE STROKEfSTROKEdGAMMAdGHAdGLOTTAL AeIeSTOPeUdHeWITH BREVE BELOWfCARONfCEDILLAfCIRCUMFLEX
fDESCENDERfDIAERESISfDOT ABOVEgBELOWfHOOKfSTROKEdHALF HdHENGdHWAIRdIeWITH ACUTEfBREVEfCARON
fCIRCUMFLEXfDIAERESISgAND ACUTEfDOT ABOVEgBELOWfDOUBLE GRAVEfGRAVEfHOOK ABOVEfINVERTED BREVE
fMACRONfOGONEKfSTROKEfTILDEgBELOWdINSULAR DeFeGeReSeTdIOTAdISdJeWITH CIRCUMFLEXfCROSSED-TAIL
fSTROKEdKeWITH ACUTEfCARONfCEDILLAfDESCENDERfDIAGONAL STROKEfDOT BELOWfHOOKfLINE BELOW
fOBLIQUE STROKEfSTROKEgAND DIAGONAL STROKEdLeWITH ACUTEfBARfBELTfCARONfCEDILLAfCIRCUMFLEX BELOW
fDOT BELOWhAND MACRONfDOUBLE BARfHIGH STROKEfLINE BELOWfMIDDLE DOTgTILDEfSMALL LETTER JfSTROKEdLJ
dMeWITH ACUTEfDOT ABOVEgBELOWfHOOKdMIDDLE SCOTS SdMIDDLE-WELSH LLeVdNeWITH ACUTEfCARONfCEDILLA
fCIRCUMFLEX BELOWfDESCENDERfDOT ABOVEgBELOWfGRAVEfLEFT HOOKfLINE BELOWfLONG RIGHT LEG
fOBLIQUE STROKEfSMALL LETTER JfTILDEdNJdOeWITH ACUTEfBREVEfCARONfCIRCUMFLEXgAND ACUTEhDOT BELOW
hGRAVEhHOOK ABOVEhTILDEfDIAERESISgAND MACRONfDOT ABOVEhAND MACRONgBELOWfDOUBLE ACUTEgGRAVEfGRAVE
fHOOK ABOVEfHORNgAND ACUTEhDOT BELOWhGRAVEhHOOK ABOVEhTILDEfINVERTED BREVEfLONG STROKE OVERLAY
fLOOPfMACRONgAND ACUTEhGRAVEfMIDDLE TILDEfOGONEKgAND MACRONfSTROKEgAND ACUTEfTILDEgAND ACUTE
hDIAERESIShMACRONdOIdOLD POLISH OdOMEGAdOOdOPEN EeOdOUdPeWITH ACUTEfDOT ABOVEfFLOURISHfHOOK
fSQUIRREL TAILfSTROKEgTHROUGH DESCENDERdQeWITH DIAGONAL STROKEfSTROKE THROUGH DESCENDERdReROTUNDA
eWITH ACUTEfCARONfCEDILLAfDOT ABOVEgBELOWhAND MACRONfDOUBLE GRAVEfINVERTED BREVEfLINE BELOW
fOBLIQUE STROKEfSTROKEfTAILdREVERSED C WITH DOTeEeHALF HeOPEN EdRUM ROTUNDAdSeWITH ACUTE
gAND DOT ABOVEfCARONgAND DOT ABOVEfCEDILLAfCIRCUMFLEXfCOMMA BELOWfDOT ABOVEgBELOWhAND DOT ABOVE
fHOOKfOBLIQUE STROKEfSHORT STROKE OVERLAYfSWASH TAILdSALTILLOdSCHWAdSCRIPT GdSHARP SdSIGMOID S
dSMALL CAPITAL IeQ WITH HOOK TAILdTeWITH CARONfCEDILLAfCIRCUMFLEX BELOWfCOMMA BELOW
fDIAGONAL STROKEfDOT ABOVEgBELOWfHOOKfLINE BELOWfRETROFLEX HOOKfSTROKEdTHORNeWITH STROKE
gTHROUGH DESCENDERdTONE FIVEeSIXeTWOdTRESILLOdTURNED AeALPHAeHeINSULAR GeKeLeMeTeVdTZdUeBAR
eWITH ACUTEfBREVEfCARONfCIRCUMFLEXgBELOWfDIAERESISgAND ACUTEhCARONhGRAVEhMACRONgBELOWfDOT BELOW
fDOUBLE ACUTEgGRAVEfGRAVEfHOOK ABOVEfHORNgAND ACUTEhDOT BELOWhGRAVEhHOOK ABOVEhTILDE
fINVERTED BREVEfMACRONgAND DIAERESISfOGONEKfRING ABOVEfSTROKEfTILDEgAND ACUTEgBELOWdUPSILONdV
eWITH DIAGONAL STROKEfDOT BELOWfHOOKfTILDEdVENDdVISIGOTHIC ZdVOLAPUK AEeOEeUEdVYdWeWITH ACUTE
fCIRCUMFLEXfDIAERESISfDOT ABOVEgBELOWfGRAVEfHOOKdWYNNdXeWITH DIAERESISfDOT ABOVEdYeWITH ACUTE
fCIRCUMFLEXfDIAERESISfDOT ABOVEgBELOWfGRAVEfHOOKgABOVEfLOOPfMACRONfSTROKEfTILDEdYOGHdZeWITH ACUTE
fCARONfCIRCUMFLEXfDESCENDERfDOT ABOVEgBELOWfHOOKfLINE BELOWfPALATAL HOOKfSTROKEfSWASH TAIL
cLIGATURE IJdOEbCROSSbEPIGRAPHIC LETTER ARCHAIC MdI LONGAdINVERTED MdREVERSED FePdSIDEWAYS I
bLETTER AINcALVEOLAR CLICKcBIDENTAL PERCUSSIVEcBILABIAL CLICKdPERCUSSIVEcDENTAL CLICKcGLOTTAL STOP
eWITH STROKEcINVERTED GLOTTAL STOPfWITH CURLgSTROKEcLATERAL CLICKcPHARYNGEAL VOICED FRICATIVE
cRETROFLEX CLICKeWITH RETROFLEX HOOKcREVERSED ESH LOOPdGLOTTAL STOP WITH STROKEcSINOLOGICAL DOT
cSMALL CAPITAL AeAEeBeBARRED BeCeDeEeETHeEZHeFeGfWITH HOOKeHeIeINVERTED ReJeKeLfWITH BELTgSTROKEeM
eNeOeOEeOPEN OeOUePeQeRfWITH RIGHT LEGeREVERSED NfReRUMeSeTeTURNED EfGfKfMfReUeVeWeYeZcSTRETCHED C
eWITH CURLcTWO WITH STROKEcVOICED LARYNGEAL SPIRANTcWYNNcYRbSMALL CAPITAL LETTER I WITH STROKE
eU WITH STROKEcLETTER AeREVERSED-SCHWAeWITH ACUTEfBREVEgAND ACUTEhDOT BELOWhGRAVEhHOOK ABOVEhTILDE
fCARONfCIRCUMFLEXgAND ACUTEhDOT BELOWhGRAVEhHOOK ABOVEhTILDEfDIAERESISgAND MACRONfDOT ABOVE
hAND MACRONgBELOWfDOUBLE GRAVEfGRAVEfHOOK ABOVEfINVERTED BREVEfMACRONfOGONEKfRETROFLEX HOOK
fRIGHT HALF RINGfRING ABOVEhAND ACUTEgBELOWfSTROKEfTILDEdAAdAEeWITH ACUTEfMACRONdALPHA
eWITH RETROFLEX HOOKdANGLICANA WdAOdAUdAVeWITH HORIZONTAL BARdAYdBeWITH DOT ABOVEgBELOWfFLOURISH
fHOOKfLINE BELOWfMIDDLE TILDEfPALATAL HOOKfSTROKEfTOPBARdBARRED ALPHAeEeOdBASELINE ESHdBETA
dBLACKLETTER EeOfWITH STROKEdBOTTOM HALF OdBROKEN LdCeWITH ACUTEfBARfCARONfCEDILLAgAND ACUTE
fCIRCUMFLEXfCURLfDOT ABOVEfHOOKfPALATAL HOOKfRETROFLEX HOOKfSTROKEdCHIeWITH LOW LEFT SERIF
gRIGHT RINGdCLOSED INSULAR GeOMEGAeOPEN EeREVERSED OPEN EdCONdCUATRILLOeWITH COMMAdDeWITH CARON
fCEDILLAfCIRCUMFLEX BELOWfCURLfDOT ABOVEgBELOWfHOOKgAND TAILfLINE BELOWfMIDDLE TILDEfPALATAL HOOK
fSHORT STROKE OVERLAYfSTROKEfTAILfTOPBARdDB DIGRAPHdDELTAdDEZH DIGRAPHfWITH PALATAL HOOK
gRETROFLEX HOOKdDOTLESS IeJfWITH STROKEhAND HOOKdDOUBLE RfWITH CROSSED-TAILeTHORNeWYNNdDUMdDZ
eDIGRAPHfWITH CURLgRETROFLEX HOOKeWITH CARONdEeWITH ACUTEfBREVEfCARONfCEDILLAgAND BREVEfCIRCUMFLEX
gAND ACUTEhDOT BELOWhGRAVEhHOOK ABOVEhTILDEgBELOWfDIAERESISfDOT ABOVEgBELOWfDOUBLE GRAVEfFLOURISH
fGRAVEfHOOK ABOVEfINVERTED BREVEfMACRONgAND ACUTEhGRAVEfNOTCHfOGONEKfRETROFLEX HOOKfSTROKEfTILDE
gBELOWdEGYPTOLOGICAL AINeALEFdENGeWITH CROSSED-TAILfPALATAL HOOKdESHeWITH CURLfDOUBLE BARhAND CURL
fPALATAL HOOKfRETROFLEX HOOKdETdETHdEZHeREVERSEDeWITH CARONfCURLfPALATAL HOOKfRETROFLEX HOOKfTAIL
dFeWITH DOT ABOVEfHOOKfMIDDLE TILDEfPALATAL HOOKfSTROKEdFENG DIGRAPHfWITH TRILLdGeWITH ACUTEfBREVE
fCARONfCEDILLAfCIRCUMFLEXfDOT ABOVEfHOOKfMACRONfOBLIQUE STROKEfPALATAL HOOKfSTROKEdGAMMAdGHA
dGLOTTAL AeIeSTOPeUdHeWITH BREVE BELOWfCARONfCEDILLAfCIRCUMFLEXfDESCENDERfDIAERESISfDOT ABOVE
gBELOWfHOOKfLINE BELOWfPALATAL HOOKfSTROKEdHALF HdHENGeWITH HOOKdHVdIeWITH ACUTEfBREVEfCARON
fCIRCUMFLEXfDIAERESISgAND ACUTEfDOT BELOWfDOUBLE GRAVEfGRAVEfHOOK ABOVEfINVERTED BREVEfMACRON
fOGONEKfRETROFLEX HOOKfSTROKEgAND RETROFLEX HOOKfTILDEgBELOWdINSULAR DeFeGeReSeTdINVERTED ALPHAeOE
dIOTAeWITH STROKEdIOTIFIED EdISdJeWITH CARONfCIRCUMFLEXfCROSSED-TAILfSTROKEdKeWITH ACUTEfCARON
fCEDILLAfDESCENDERfDIAGONAL STROKEfDOT BELOWfHOOKfLINE BELOWfOBLIQUE STROKEfPALATAL HOOKfSTROKE
gAND DIAGONAL STROKEdKRAdLeWITH ACUTEfBARfBELTgAND PALATAL HOOKfCARONfCEDILLAfCIRCUMFLEX BELOW
fCURLfDOT BELOWhAND MACRONfDOUBLE BARgMIDDLE TILDEfFISHHOOKfHIGH STROKEfINVERTED LAZY SfLINE BELOW
fMIDDLE DOTgRINGgTILDEfPALATAL HOOKfRETROFLEX HOOKhAND BELTfSTROKEdLAMBDA WITH STROKEdLENIS FdLEZH
eWITH RETROFLEX HOOKdLJdLONG SfWITH DIAGONAL STROKEgDOT ABOVEgHIGH STROKEdLS DIGRAPHdLUM
dLZ DIGRAPHdMeWITH ACUTEfCROSSED-TAILfDOT ABOVEgBELOWfHOOKfMIDDLE TILDEfPALATAL HOOK
dMIDDLE SCOTS SdMIDDLE-WELSH LLeVdMUMdNePRECEDED BY APOSTROPHEeWITH ACUTEfCARONfCEDILLA
fCIRCUMFLEX BELOWfCROSSED-TAILfCURLfDESCENDERfDOT ABOVEgBELOWfGRAVEfLEFT HOOKfLINE BELOW
fLONG RIGHT LEGfMIDDLE TILDEfOBLIQUE STROKEfPALATAL HOOKfRETROFLEX HOOKfTILDEdNJdNUMdOeWITH ACUTE
fBREVEfCARONfCIRCUMFLEXgAND ACUTEhDOT BELOWhGRAVEhHOOK ABOVEhTILDEfDIAERESISgAND MACRONfDOT ABOVE
hAND MACRONgBELOWfDOUBLE ACUTEgGRAVEfGRAVEfHOOK ABOVEfHORNgAND ACUTEhDOT BELOWhGRAVEhHOOK ABOVE
hTILDEfINVERTED BREVEfLONG STROKE OVERLAYfLOOPfLOW RING INSIDEfMACRONgAND ACUTEhGRAVEfOGONEK
gAND MACRONfRETROFLEX HOOKfSTROKEgAND ACUTEfTILDEgAND ACUTEhDIAERESIShMACRONdOIdOLD POLISH OdOMEGA
dOOdOPEN EfWITH RETROFLEX HOOKeOfWITH RETROFLEX HOOKgSTROKEeOEdOUdPeWITH ACUTEfDOT ABOVEfFLOURISH
fHOOKfMIDDLE TILDEfPALATAL HOOKfSQUIRREL TAILfSTROKEgTHROUGH DESCENDERdPHIdQeWITH DIAGONAL STROKE
fHOOKgTAILfSTROKE THROUGH DESCENDERdQP DIGRAPHdReROTUNDAeWITH ACUTEfCARONfCEDILLAfCROSSED-TAIL
fDOT ABOVEgBELOWhAND MACRONfDOUBLE GRAVEfFISHHOOKgAND MIDDLE TILDEhPALATAL HOOKfINVERTED BREVE
fLINE BELOWfLONG LEGfMIDDLE TILDEfOBLIQUE STROKEfPALATAL HOOKfSTROKEfTAILeWITHOUT HANDLEdRAMS HORN
dREVERSED CfWITH DOTeEeENGeHALF HeKeOPEN EgWITH HOOKhRETROFLEX HOOKeR WITH FISHHOOKeSCRIPT GdRUM
eROTUNDAdSeWITH ACUTEgAND DOT ABOVEfCARONgAND DOT ABOVEfCEDILLAfCIRCUMFLEXfCOMMA BELOWfCURL
fDOT ABOVEgBELOWhAND DOT ABOVEfHOOKfMIDDLE TILDEfOBLIQUE STROKEfPALATAL HOOKfSHORT STROKE OVERLAY
fSWASH TAILdSAKHA YATdSALTILLOdSCHWAeWITH HOOKfRETROFLEX HOOKdSCRIPT GfWITH CROSSED-TAILeR
fWITH RINGdSHARP SdSIDEWAYS DIAERESIZED UeOfWITH STROKEeOPEN OeTURNED MeUdSIGMOID S
dSQUAT REVERSED ESHdSTIRRUP RdTeWITH CARONfCEDILLAfCIRCUMFLEX BELOWfCOMMA BELOWfCURLfDIAERESIS
fDIAGONAL STROKEfDOT ABOVEgBELOWfHOOKgAND RETROFLEX HOOKfLINE BELOWfMIDDLE TILDEfPALATAL HOOK
fRETROFLEX HOOKfSTROKEdTAILLESS PHIdTC DIGRAPH WITH CURLdTESH DIGRAPHfWITH PALATAL HOOK
gRETROFLEX HOOKdTH WITH STRIKETHROUGHdTHORNeWITH STROKEgTHROUGH DESCENDERdTONE FIVEeSIXeTWO
dTOP HALF OdTRESILLOdTS DIGRAPHfWITH RETROFLEX HOOKdTUMdTURNED AeAEeALPHAeDELTAeEeGeH
fWITH FISHHOOKhAND TAILeIeINSULAR GeKeLeMfWITH LONG LEGeO OPEN-OgWITH STROKEeOE
fWITH HORIZONTAL STROKEgSTROKEeOPEN EeRfWITH HOOKgLONG LEGiAND RETROFLEX HOOKgMIDDLE TILDE
gPALATAL HOOKgTAILeTfWITH CURLeUIeVeWeYfWITH BELTdTZdUeBARfWITH SHORT RIGHT LEGeWITH ACUTEfBREVE
fCARONfCIRCUMFLEXgBELOWfDIAERESISgAND ACUTEhCARONhGRAVEhMACRONgBELOWfDOT BELOWfDOUBLE ACUTEgGRAVE
fGRAVEfHOOK ABOVEfHORNgAND ACUTEhDOT BELOWhGRAVEhHOOK ABOVEhTILDEfINVERTED BREVEfLEFT HOOKfMACRON
gAND DIAERESISfOGONEKfRETROFLEX HOOKfRING ABOVEfSHORT RIGHT LEGfSTROKEfTILDEgAND ACUTEgBELOWdUEdUI
dUMdUOdUPSILONeWITH STROKEdVeWITH CURLfDIAGONAL STROKEfDOT BELOWfHOOKfPALATAL HOOKfRIGHT HOOK
fTILDEdVENDdVISIGOTHIC ZdVOLAPUK AEeOEeUEdVYdWeWITH ACUTEfCIRCUMFLEXfDIAERESISfDOT ABOVEgBELOW
fGRAVEfHOOKfRING ABOVEdXeWITH DIAERESISfDOT ABOVEfLONG LEFT LEGiAND LOW RIGHT RINGiWITH SERIF
fLOW RIGHT RINGfPALATAL HOOKdYeWITH ACUTEfCIRCUMFLEXfDIAERESISfDOT ABOVEgBELOWfGRAVEfHOOKgABOVE
fLOOPfMACRONfRING ABOVEfSHORT RIGHT LEGfSTROKEfTILDEdYOGHdZeWITH ACUTEfCARONfCIRCUMFLEXfCURL
fDESCENDERfDOT ABOVEgBELOWfHOOKfLINE BELOWfMIDDLE TILDEfPALATAL HOOKfRETROFLEX HOOKfSTROKE
fSWASH TAILcLIGATURE FFdFFIdFFLdFIdFLdIJdLONG S TdOEdSTbSUBSCRIPT SMALL LETTER AeEeHeIeJeKeLeMeNeO
ePeReSeSCHWAeTeUeVeXaLEAF FLUTTERING IN WINDaLEAFY GREENaLEDGER
aLEFT AND LOWER AND RIGHT TRIANGULAR THREE QUARTERS BLOCKdONE EIGHTH BLOCKcRIGHT DOUBLE TURNSTILE
dTACKdTRIANGULAR HALF BLOCKcUPPER AND RIGHT TRIANGULAR THREE QUARTERS BLOCKdONE EIGHTH BLOCK
bANGER BUBBLEbANGLE BRACKETdWITH DOTbARC LESS-THAN BRACKETbARROW WITH CIRCLED PLUSdSMALL CIRCLE
bBARB DOWN RIGHT BARB DOWN HARPOONfUP HARPOONcUP RIGHT BARB DOWN HARPOONfUP HARPOON
bBLACK LENTICULAR BRACKETcTORTOISE SHELL BRACKETbCEILINGbCLOSED ENTRYbCORNER BRACKETbCURLY BRACKET
dLOWER HOOKdMIDDLE PIECEdUPPER HOOKbDOTTED SUBSTITUTION BRACKETbDOUBLE ANGLE BRACKETcPARENTHESIS
cQUOTATION MARKcWIGGLY FENCEbFISH TAILbFIVE EIGHTHS BLOCKbFLOORbHALF BLACK CIRCLEdSTARcBLOCK
cCIRCLEdWITH DOTeFOUR DOTSeTHREE DOTSeTWO DOTScFOLDERcINVERSE MEDIUM SHADE AND RIGHT HALF BLOCK
cMEDIUM SHADEcRUNNING MANbHAND TELEPHONE RECEIVERbLOW PARAPHRASE BRACKETbLUGGAGEbMULTIMAP
bNORMAL FACTOR SEMIDIRECT PRODUCTbONE EIGHTH BLOCKcQUARTER BLOCKbOUTER JOINbPARENTHESIScEXTENSION
cLOWER HOOKcUPPER HOOKbRAISED OMISSION BRACKETbRIGHT ARROWdTHROUGH SMALL CIRCLE
dWITH DOUBLE VERTICAL STROKEeSTROKEeVERTICAL STROKEcBLACK ARROWcDOUBLE ARROWeWITH STROKE
fVERTICAL STROKEcOPEN-HEADED ARROWcSANS-SERIF ARROWcTRIANGLE-HEADED ARROWcWAVE ARROWcWHITE ARROW
bS-SHAPED BAG DELIMITERbSEMIDIRECT PRODUCTbSEVEN EIGHTHS BLOCKbSIDEWAYS U BRACKET
bSINGLE QUOTATION MARKbSPEECH BUBBLEbSQUARE BRACKETdEXTENSIONdLOWER CORNERdUPPER CORNER
dWITH DOUBLE STROKEeQUILLeSTROKEeTICK IN BOTTOM CORNERgTOP CORNEReUNDERBARbSUBSTITUTION BRACKET
bTACKbTHIRD WHITE RIGHT POINTING INDEXbTHOUGHT BUBBLEbTHREE EIGHTHS BLOCKcQUARTERS BLOCK
bTORTOISE SHELL BRACKETbTRANSPOSITION BRACKETbTRIANGLE BESIDE VERTICAL BAR
bTRIANGULAR ONE QUARTER BLOCKbVERTICAL BAR WITH QUILLcBOX LINEbWHITE CORNER BRACKETcCURLY BRACKET
cLENTICULAR BRACKETcPARENTHESIScSQUARE BRACKETcTORTOISE SHELL BRACKETbWIGGLY FENCEbWRITING HAND
aLEFT-FACING ARMENIAN ETERNITY SIGNbFISTbSVASTI SIGNdWITH DOTSaLEFT-HANDED INTERLACED PENTAGRAM
aLEFT-POINTING ANGLE BRACKETbCURVED ANGLE BRACKETbDOUBLE ANGLE QUOTATION MARKbMAGNIFYING GLASS
aLEFT-SHADED WHITE RIGHTWARDS ARROWaLEFT-SIDE ARC ANTICLOCKWISE ARROWaLEFT-TO-RIGHT EMBEDDING
bISOLATEbMARKbOVERRIDEaLEFTWARDS ARROWcABOVE ALMOST EQUAL TOdREVERSE ALMOST EQUAL TO
eTILDE OPERATORdSHORT RIGHTWARDS ARROWdTILDE OPERATORcAND UPPER AND LOWER ONE EIGHTH BLOCK
cFROM BAReTO BLACK DIAMONDcOVER RIGHTWARDS ARROWcTHROUGH LESS-THANdSUBSETdXcTO BAR
eOVER RIGHTWARDS ARROW TO BARdBLACK DIAMONDcWITH DOTTED STEMdDOUBLE VERTICAL STROKE
dEQUILATERAL ARROWHEADdHOOKdLARGE TRIANGLE ARROWHEADdLOOPdMEDIUM TRIANGLE ARROWHEADdNOTCHED TAIL
dPLUS BELOWdSMALL EQUILATERAL ARROWHEADeTRIANGLE ARROWHEADdSTROKEdTAILeWITH DOUBLE VERTICAL STROKE
fVERTICAL STROKEdTIP DOWNWARDSeUPWARDSdVERTICAL STROKEbARROW-TAILbBACK-TILTED SHADOWED WHITE ARROW
bBLACK ARROWcCIRCLED WHITE ARROWbBOTTOM-SHADED WHITE ARROWbCOMPRESSED ARROWbDASHED ARROW
bDOUBLE ARROWdFROM BARdWITH STROKEeVERTICAL STROKEcARROW-TAILcDASH ARROWbFINGER-POST ARROW
bFRONT-TILTED SHADOWED WHITE ARROWbHANDbHARPOON OVER RIGHTWARDS HARPOON
cWITH BARB DOWN ABOVE RIGHTWARDS HARPOON WITH BARB DOWNfBELOW LONG DASHfFROM BARfTO BAReDOWNWARDS
eUP ABOVE LEFTWARDS HARPOON WITH BARB DOWNgLONG DASHgRIGHTWARDS HARPOON WITH BARB UPfFROM BAR
fTO BAReUPWARDSbHEAVY ARROWcCOMPRESSED ARROWbLEFT-SHADED WHITE ARROWbOPEN-HEADED ARROW
bPAIRED ARROWSbQUADRUPLE ARROWbRIGHT-SHADED WHITE ARROWbROCKETbSANS-SERIF ARROWbSQUARED ARROW
bSQUIGGLE ARROWbTOP SHADED WHITE ARROWbTRIANGLE ARROWHEADbTRIANGLE-HEADED ARROW
dOVER RIGHTWARDS TRIANGLE-HEADED ARROWdTO BARdWITH BOLD SHAFTeDOUBLE HORIZONTAL STROKE
fVERTICAL STROKEeHEAVY SHAFTeLONG TIP DOWNWARDSgUPWARDSeMEDIUM SHAFTeNARROW SHAFTeVERY HEAVY SHAFT
cDASHED ARROWcPAIRED ARROWSbTRIPLE ARROWcDASH ARROWbTWO HEADED ARROWbTWO-HEADED ARROW FROM BAR
dWITH DOUBLE VERTICAL STROKEeTAILfWITH DOUBLE VERTICAL STROKEgVERTICAL STROKEeTRIANGLE ARROWHEADS
eVERTICAL STROKEcTRIPLE DASH ARROWbWAVE ARROWbWHITE ARROWdWITHIN TRIANGLE ARROWHEADaLEGaLEMONaLEO
aLEOPARDaLEPCHA CONSONANT SIGN KdKANGdLdMdNdNYIN-DOdPdRdTbDIGIT EIGHTcFIVEcFOURcNINEcONEcSEVENcSIX
cTHREEcTWOcZERObLETTER AcBAcBLAcCAcCHAcDAcDDAcDZAcFAcFLAcGAcGLAcHAcHLAcJAcKAcKHAcKLAcLAcMAcMLAcNA
cNGAcNYAcPAcPHAcPLAcRAcSAcSHAcTAcTHAcTSAcTSHAcTTAcTTHAcVAcWAcYAbPUNCTUATION CER-WA
cNYET THYOOM TA-ROLcTA-ROLcTSHOOKdCER-WAbSIGN NUKTAcRANbSUBJOINED LETTER RAdYAbVOWEL SIGN AAdEdIdO
dOOdUdUUaLESS-THAN ABOVE DOUBLE-LINE EQUAL ABOVE GREATER-THANcGREATER-THAN ABOVE DOUBLE-LINE EQUAL
cLEFTWARDS ARROWcSIMILAR ABOVE GREATER-THANdOR EQUAL
cSLANTED EQUAL ABOVE GREATER-THAN ABOVE SLANTED EQUALbAND NOT APPROXIMATEcSINGLE-LINE NOT EQUAL TO
bBUT NOT EQUAL TOdEQUIVALENT TObCLOSED BY CURVEeABOVE SLANTED EQUALbEQUAL TO OR GREATER-THAN
bOR APPROXIMATEcEQUAL TOcEQUIVALENT TOcGREATER-THANcSLANTED EQUAL TOfWITH DOT ABOVEiRIGHThINSIDE
bOVER EQUAL TObSIGNbWITH CIRCLE INSIDEcDOTcQUESTION MARK ABOVEaLEVEL SLIDERaLFaLIBRA
aLIGATURE OPEN ET ORNAMENTaLIGHT CHECK MARKbEIGHT SPOKED ASTERISKbFIVE POINTED BLACK STAR
cSPOKED ASTERISKbFOUR POINTED BLACK CUSPeSTARbGREEK CROSSbLEFT TORTOISE SHELL BRACKET ORNAMENT
bRAILbRIGHT TORTOISE SHELL BRACKET ORNAMENTbSALTIREbSHADEbSIX SPOKED ASTERISK
bTHREE POINTED BLACK STARbTWELVE POINTED BLACK STARbVERTICAL BARbWHITE SQUAREaLIGHTNINGbMOOD
cBUBBLEaLIMBU DIGIT EIGHTcFIVEcFOURcNINEcONEcSEVENcSIXcTHREEcTWOcZERObEXCLAMATION MARKbLETTER BA
cBHAcCAcCHAcDAcDHAcGAcGHAcGYANcHAcJAcJHAcKAcKHAcLAcMAcNAcNGAcPAcPHAcRAcSAcSHAcSSAcTAcTHAcTRAcWAcYA
cYANbQUESTION MARKbSIGN KEMPHRENGcLOOcMUKPHRENGcSA-IbSMALL LETTER ANUSVARAdKAdLAdMAdNAdNGAdPAdRA
dTAbSUBJOINED LETTER RAdWAdYAbVOWEL SIGN AdAIdAUdEdEEdIdOdOOdUbVOWEL-CARRIER LETTER
aLIMITED LIABILITY SIGNaLINE FEEDbINTEGRATION NOT INCLUDING THE POLE
cWITH RECTANGULAR PATH AROUND POLEdSEMICIRCULAR PATH AROUND POLEbSEPARATORbTABULATIONcSET
aLINEAR A SIGN A028BdA100-102dA120BdA131CdA301dA302dA303dA304dA305dA306dA307dA308dA309AdA309B
dA309CdA310dA311dA312dA313AdA313BdA313CdA314dA315dA316dA317dA318dA319dA320dA321dA322dA323dA324
dA325dA326dA327dA328dA329dA330dA331dA332dA333dA334dA335dA336dA337dA338dA339dA340dA341dA342dA343
dA344dA345dA346dA347dA348dA349dA350dA351dA352dA353dA354dA355dA356dA357dA358dA359dA360dA361dA362
dA363dA364dA365dA366dA367dA368dA369dA370dA371dA400-VASdA401-VASdA402-VASdA403-VASdA404-VAS
dA405-VASdA406-VASdA407-VASdA408-VASdA409-VASdA410-VASdA411-VASdA412-VASdA413-VASdA414-VAS
dA415-VASdA416-VASdA417-VASdA418-VASdA501dA502dA503dA504dA505dA506dA508dA509dA510dA511dA512dA513
dA515dA516dA520dA521dA523dA524dA525dA526dA527dA528dA529dA530dA531dA532dA534dA535dA536dA537dA538
dA539dA540dA541dA542dA545dA547dA548dA549dA550dA551dA552dA553dA554dA555dA556dA557dA559dA563dA564
dA565dA566dA568dA569dA570dA571dA572dA573dA574dA575dA576dA577dA578dA579dA580dA581dA582dA583dA584
dA585dA586dA587dA588dA589dA591dA592dA594dA595dA596dA598dA600dA601dA602dA603dA604dA606dA608dA609
dA610dA611dA612dA613dA614dA615dA616dA617dA618dA619dA620dA621dA622dA623dA624dA626dA627dA628dA629
dA634dA637dA638dA640dA642dA643dA644dA645dA646dA648dA649dA651dA652dA653dA654dA655dA656dA657dA658
dA659dA660dA661dA662dA663dA664dA701 AdA702 BdA703 DdA704 EdA705 FdA706 HdA707 JdA708 KdA709 L
dA709-2 L2dA709-3 L3dA709-4 L4dA709-6 L6dA710 WdA711 XdA712 YdA713 OMEGAdA714 ABBdA715 BBdA717 DD
dA726 EYYYdA732 JEdA800dA801dA802dA803dA804dA805dA806dA807dAB001dAB002dAB003dAB004dAB005dAB006
dAB007dAB008dAB009dAB010dAB011dAB013dAB016dAB017dAB020dAB021dAB021FdAB021MdAB022dAB022FdAB022M
dAB023dAB023MdAB024dAB026dAB027dAB028dAB029dAB030dAB031dAB034dAB037dAB038dAB039dAB040dAB041dAB044
dAB045dAB046dAB047dAB048dAB049dAB050dAB051dAB053dAB054dAB055dAB056dAB057dAB058dAB059dAB060dAB061
dAB065dAB066dAB067dAB069dAB070dAB073dAB074dAB076dAB077dAB078dAB079dAB080dAB081dAB082dAB085dAB086
dAB087dAB118dAB120dAB122dAB123dAB131AdAB131BdAB164dAB171dAB180dAB188dAB191bB IDEOGRAM B100 MAN
dB102 WOMANdB104 DEERdB105 EQUIDdB105F MAREdB105M STALLIONdB106F EWEdB106M RAMdB107F SHE-GOAT
dB107M HE-GOATdB108F SOWdB108M BOARdB109F COWdB109M BULLdB120 WHEATdB121 BARLEYdB122 OLIVE
dB123 SPICEdB125 CYPERUSdB130 OILdB131 WINEdB132dB140 BRONZEdB141 GOLDdB142dB145 WOOLdB146dB150
dB151 HORNdB152dB153dB154dB157dB158dB159 CLOTHdB160dB161dB162 GARMENTdB163 ARMOURdB164dB165dB166
dB167dB168dB169dB170dB171dB172dB173 MONTHdB174dB176 TREEdB177dB178dB179dB180dB181dB182dB183dB184
dB185dB189dB190dB191 HELMETdB220 FOOTSTOOLdB225 BATHTUBdB230 SPEARdB231 ARROWdB232dB233 SWORDdB234
dB236dB240 WHEELED CHARIOTdB241 CHARIOTdB242 CHARIOT FRAMEdB243 WHEELdB245dB246dB248dB249dB251
dB252dB253dB254 DARTdB255dB256dB257dB258dB259dVESSEL B155eB200eB201eB202eB203eB204eB205eB206eB207
eB208eB209eB210eB211eB212eB213eB214eB215eB216eB217eB218eB219eB221eB222eB226eB227eB228eB229eB250
eB305cMONOGRAM B127 KAPOdB128 KANAKOdB133 AREPAdB135 MERIdB156 TURO2dB247 DIPTEcSYLLABLE B001 DA
dB002 ROdB003 PAdB004 TEdB005 TOdB006 NAdB007 DIdB008 AdB009 SEdB010 UdB011 POdB012 SOdB013 ME
dB014 DOdB015 MOdB016 QAdB017 ZAdB020 ZOdB021 QIdB023 MUdB024 NEdB025 A2dB026 RUdB027 REdB028 I
dB029 PU2dB030 NIdB031 SAdB032 QOdB033 RA3dB036 JOdB037 TIdB038 EdB039 PIdB040 WIdB041 SIdB042 WO
dB043 A3dB044 KEdB045 DEdB046 JEdB048 NWAdB050 PUdB051 DUdB052 NOdB053 RIdB054 WAdB055 NUdB057 JA
dB058 SUdB059 TAdB060 RAdB061 OdB062 PTEdB065 JUdB066 TA2dB067 KIdB068 RO2dB069 TUdB070 KO
dB071 DWEdB072 PEdB073 MIdB074 ZEdB075 WEdB076 RA2dB077 KAdB078 QEdB080 MAdB081 KUdB085 AU
dB087 TWEdB090 DWOdB091 TWOcSYMBOL B018dB019dB022dB034dB047dB049dB056dB063dB064dB079dB082dB083
dB086dB089aLINK SYMBOLaLINKED PAPERCLIPSaLION FACEaLIPSaLIPSTICKaLIRA SIGNaLISU LETTER AcAEcBAcCA
cCHAcDAcDZAcEcEUcFAcGAcGHAcHAcHHAcIcJAcKAcKHAcLAcMAcNAcNGAcOcOEcPAcPHAcSAcSHAcTAcTHAcTONE MYA BO
eCYAeJEUeNAeTIdNA POcTSAcTSHAcUcUEcUHcWAcXAcYAcYHAcZAcZHAbPUNCTUATION COMMAcFULL STOP
aLIVRE TOURNOIS SIGNaLIZARDaLLAMAaLOBSTERaLOCKbWITH INK PENaLOCKING-SHIFT ONEbZEROaLOGICAL AND
cWITH DOT ABOVEdDOUBLE OVERBAReUNDERBARdHORIZONTAL DASHdMIDDLE STEMdUNDERBARbOR
cOVERLAPPING LOGICAL ANDcWITH DOT ABOVEdDOUBLE OVERBAReUNDERBARdHORIZONTAL DASHdMIDDLE STEM
aLOLLIPOPaLONG DASH FROM LEFT MEMBER OF DOUBLE VERTICALbDIVISIONbDRUMbLEFT RIGHT ARROW
dDOUBLE ARROWcTACKbLEFTWARDS ARROWdFROM BARcDOUBLE ARROWeFROM BARcSQUIGGLE ARROWbRIGHT TACK
bRIGHTWARDS ARROWdFROM BARcDOUBLE ARROWeFROM BARcSQUIGGLE ARROWaLOTION BOTTLEaLOTUS
aLOUDLY CRYING FACEaLOVE HOTELbLETTERaLOW ASTERISKbBATTERYbBRIGHTNESS SYMBOL
bDOUBLE PRIME QUOTATION MARKbKAVYKAcWITH DOTbLINEaLOWER BLADE SCISSORSbFIVE EIGHTHS BLOCK
bHALF BLOCKcCIRCLEcINVERSE WHITE CIRCLEcMEDIUM SHADEbLEFT BALLPOINT PEN
cBLOCK DIAGONAL LOWER MIDDLE LEFT TO LOWER CENTREjRIGHTeUPPER CENTRE TO LOWER MIDDLE RIGHTiRIGHT
hUPPER MIDDLE RIGHTfLEFT TO LOWER CENTREiMIDDLE RIGHThUPPER MIDDLE RIGHT
fMIDDLE LEFT TO LOWER CENTREjMIDDLE RIGHTjRIGHTcCRAYONcFOUNTAIN PENcPAINTBRUSHcPENCIL
cQUADRANT CIRCULAR ARCcSEMICIRCULAR ANTICLOCKWISE ARROWcTRIANGLEcTRIANGULAR MEDIUM SHADE
bONE EIGHTH BLOCKcQUARTER BLOCKbRIGHT BLOCK DIAGONAL LOWER CENTRE TO LOWER MIDDLE RIGHT
hUPPER MIDDLE RIGHTiRIGHTfLEFT TO LOWER MIDDLE RIGHThUPPER CENTREiMIDDLE RIGHT
fMIDDLE LEFT TO UPPER CENTREjMIDDLE RIGHTjRIGHTeUPPER MIDDLE LEFT TO UPPER CENTREjRIGHT
cCORNER WITH DOTcDROP-SHADOWED WHITE SQUAREcPENCILcQUADRANT CIRCULAR ARC
cSEMICIRCULAR CLOCKWISE ARROWcSHADOWED WHITE CIRCLEeSQUAREcTRIANGLEcTRIANGULAR MEDIUM SHADE
bSEVEN EIGHTHS BLOCKbTHREE EIGHTHS BLOCKcQUARTERS BLOCKbTRIANGULAR ONE QUARTER BLOCKaLOZENGE
bDIVIDED BY HORIZONTAL RULEaLREaLRIaLRMaLROaLUGGAGEaLUNGSaLYCIAN LETTER AcANcBcBHcDcEcENcGcHcIcJcK
cKKcLcMcMMcNcNNcPcQcRcScTcTHcTTcUcWcXcZaLYDIAN LETTER AcANcBcCcDcEcENcFcGcIcKcLcLYcMcNcNNcOcQcRcS
cSScTcTTcUcVcYbTRIANGULAR MARKaLYING FACEaMACRONaMAGEaMAGIC WANDaMAGNETaMAHAJANI ABBREVIATION SIGN
bLETTER AcBAcBHAcCAcCHAcDAcDDAcDDHAcDHAcEcGAcGHAcHAcIcJAcJHAcKAcKHAcLAcMAcNAcNNAcNYAcOcPAcPHAcRA
cRRAcSAcTAcTHAcTTAcTTHAcUcVAbLIGATURE SHRIbSECTION MARKbSIGN NUKTAaMAHJONG TILE AUTUMNcBACKcBAMBOO
cCHRYSANTHEMUMcEAST WINDcEIGHT OF BAMBOOSeCHARACTERSeCIRCLEScFIVE OF BAMBOOSeCHARACTERSeCIRCLES
cFOUR OF BAMBOOSeCHARACTERSeCIRCLEScGREEN DRAGONcJOKERcNINE OF BAMBOOSeCHARACTERSeCIRCLES
cNORTH WINDcONE OF BAMBOOSeCHARACTERSeCIRCLEScORCHIDcPLUMcRED DRAGONcSEVEN OF BAMBOOSeCHARACTERS
eCIRCLEScSIX OF BAMBOOSeCHARACTERSeCIRCLEScSOUTH WINDcSPRINGcSUMMERcTHREE OF BAMBOOSeCHARACTERS
eCIRCLEScTWO OF BAMBOOSeCHARACTERSeCIRCLEScWEST WINDcWHITE DRAGONcWINTERaMAKASAR ANGKA
bEND OF SECTIONbLETTER AcBAcCAcDAcGAcJAcKAcLAcMAcNAcNGAcNYAcPAcRAcSAcTAcVAcYAbPASSIMBANG
bVOWEL SIGN EdIdOdUaMALAYALAM AU LENGTH MARKbDATE MARKbDIGIT EIGHTcFIVEcFOURcNINEcONEcSEVENcSIX
cTHREEcTWOcZERObFRACTION ONE EIGHTHdFIFTHdFORTIETHdHALFdONE-HUNDRED-AND-SIXTIETHdQUARTERdSIXTEENTH
dTENTHdTWENTIETHcTHREE EIGHTIETHSdQUARTERSdSIXTEENTHSdTWENTIETHSbLETTER AcAAcAIcARCHAIC IIcAUcBA
cBHAcCAcCHAcCHILLU KdLdLLdLLLdMdNdNNdRRdYcDAcDDAcDDHAcDHAcDOT REPHcEcEEcGAcGHAcHAcIcIIcJAcJHAcKA
cKHAcLAcLLAcLLLAcMAcNAcNGAcNNAcNNNAcNYAcOcOOcPAcPHAcRAcRRAcSAcSHAcSSAcTAcTHAcTTAcTTHAcTTTAcUcUUcVA
cVEDIC ANUSVARAcVOCALIC LdLLdRdRRcYAbNUMBER ONE HUNDREDdTHOUSANDcTENbSIGN ANUSVARAcAVAGRAHA
cCANDRABINDUcCIRCULAR VIRAMAcCOMBINING ANUSVARA ABOVEcPARAcVERTICAL BAR VIRAMAcVIRAMAcVISARGA
bVOWEL SIGN AAdAIdAUdEdEEdIdIIdOdOOdUdUUdVOCALIC LeLLeReRRaMALE AND FEMALE SIGNbSIGN
bWITH STROKE AND MALE AND FEMALE SIGNdSIGNaMALTESE CROSSaMAMMOTHaMANbAND WOMAN HOLDING HANDS
bDANCINGbIN BUSINESS SUIT LEVITATINGcTUXEDObWITH GUA PI MAOcTURBANaMANAT SIGN
aMANDAIC AFFRICATION MARKbGEMINATION MARKbLETTER ABcADcAGcAHcAINcAKcAKSAcALcAMcANcAPcAQcARcAScASH
cASZcATcATTcAZcDUSHENNAcHALQAcINcITcKADcUSHENNAbPUNCTUATIONbVOCALIZATION MARKaMANGO
aMANICHAEAN ABBREVIATION MARK ABOVEdBELOWbLETTER AAYINcALEPHcAYINcBETHcBHETHcDALETHcDHAMEDHcFE
cGHIMELcGIMELcHEcHETHcJAYINcJHAYINcKAPHcKHAPHcLAMEDHcMEMcNUNcPEcQHOPHcQOPHcRESHcSADHEcSAMEKHcSHIN
cSSHINcTAWcTETHcTHAMEDHcWAWcXAPHcXOPHcYODHcZAYINcZHAYINbNUMBER FIVEcONEdHUNDREDcTENcTWENTY
bPUNCTUATION DOTdWITHIN DOTcDOUBLE DOT WITHIN DOTcFLEURONcLINE FILLERcSTARcTWO DOTSbSIGN UD
aMANS SHOEaMANTELPIECE CLOCKaMANUAL WHEELCHAIRaMAP SYMBOL FOR LIGHTHOUSEaMAPLE LEAF
aMARCHEN HEAD MARKbLETTER -AcAcBAcCAcCHAcDAcDZAcGAcHAcJAcKAcKHAcLAcMAcNAcNGAcNYAcPAcPHAcRAcSAcSHA
cTAcTHAcTSAcTSHAcWAcYAcZAcZHAbMARK SHADbSIGN ANUSVARAcCANDRABINDUbSUBJOINED LETTER AdBAdCAdCHAdDA
dDZAdGAdHAdJAdKAdKHAdLAdMAdNAdNGAdNYAdPAdPHAdRAdSAdSHAdTAdTHAdTSAdTSHAdWAdYAdZAdZHAbVOWEL SIGN AA
dEdIdOdUaMARRIAGE SYMBOLaMARTIAL ARTS UNIFORMaMASARAM GONDI DIGIT EIGHTdFIVEdFOURdNINEdONEdSEVEN
dSIXdTHREEdTWOdZEROcLETTER AdAAdAIdAUdBAdBHAdCAdCHAdDAdDDAdDDHAdDHAdEdGAdGHAdHAdIdIIdJAdJHAdJNYA
dKAdKHAdKSSAdLAdLLAdMAdNAdNGAdNNAdNYAdOdPAdPHAdRAdSAdSHAdSSAdTAdTHAdTRAdTTAdTTHAdUdUUdVAdYA
cRA-KARAcREPHAcSIGN ANUSVARAdCANDRAdHALANTAdNUKTAdVISARGAcVIRAMAcVOWEL SIGN AAeAIeAUeEeIeIIeOeUeUU
eVOCALIC RaMASCULINE ORDINAL INDICATORaMASK WORK SYMBOLaMASU MARKaMATE DRINK
aMATHEMATICAL BOLD CAPITAL AdALPHAdBdBETAdCdCHIdDdDELTAdDIGAMMAdEdEPSILONdETAdFdGdGAMMAdHdIdIOTAdJ
dKdKAPPAdLdLAMDAdMdMUdNdNUdOdOMEGAdOMICRONdPdPHIdPIdPSIdQdRdRHOdSdSIGMAdTdTAUdTHETAeSYMBOLdU
dUPSILONdVdWdXdXIdYdZdZETAcDIGIT EIGHTdFIVEdFOURdNINEdONEdSEVENdSIXdTHREEdTWOdZEROcEPSILON SYMBOL
cFRAKTUR CAPITAL AeBeCeDeEeFeGeHeIeJeKeLeMeNeOePeQeReSeTeUeVeWeXeYeZdSMALL AeBeCeDeEeFeGeHeIeJeKeL
eMeNeOePeQeReSeTeUeVeWeXeYeZcITALIC CAPITAL AeALPHAeBeBETAeCeCHIeDeDELTAeEeEPSILONeETAeFeGeGAMMAeH
eIeIOTAeJeKeKAPPAeLeLAMDAeMeMUeNeNUeOeOMEGAeOMICRONePePHIePIePSIeQeReRHOeSeSIGMAeTeTAUeTHETA
fSYMBOLeUeUPSILONeVeWeXeXIeYeZeZETAdEPSILON SYMBOLdKAPPA SYMBOLdNABLAdPARTIAL DIFFERENTIAL
dPHI SYMBOLdPI SYMBOLdRHO SYMBOLdSMALL AeALPHAeBeBETAeCeCHIeDeDELTAeEeEPSILONeETAeFeFINAL SIGMAeG
eGAMMAeHeIeIOTAeJeKeKAPPAeLeLAMDAeMeMUeNeNUeOeOMEGAeOMICRONePePHIePIePSIeQeReRHOeSeSIGMAeTeTAU
eTHETAeUeUPSILONeVeWeXeXIeYeZeZETAdTHETA SYMBOLcKAPPA SYMBOLcNABLAcPARTIAL DIFFERENTIALcPHI SYMBOL
cPI SYMBOLcRHO SYMBOLcSCRIPT CAPITAL AeBeCeDeEeFeGeHeIeJeKeLeMeNeOePeQeReSeTeUeVeWeXeYeZdSMALL AeB
eCeDeEeFeGeHeIeJeKeLeMeNeOePeQeReSeTeUeVeWeXeYeZcSMALL AdALPHAdBdBETAdCdCHIdDdDELTAdDIGAMMAdE
dEPSILONdETAdFdFINAL SIGMAdGdGAMMAdHdIdIOTAdJdKdKAPPAdLdLAMDAdMdMUdNdNUdOdOMEGAdOMICRONdPdPHIdPI
dPSIdQdRdRHOdSdSIGMAdTdTAUdTHETAdUdUPSILONdVdWdXdXIdYdZdZETAcTHETA SYMBOLbDOUBLE-STRUCK CAPITAL A
dBdDdEdFdGdIdJdKdLdMdOdSdTdUdVdWdXdYcDIGIT EIGHTdFIVEdFOURdNINEdONEdSEVENdSIXdTHREEdTWOdZERO
cSMALL AdBdCdDdEdFdGdHdIdJdKdLdMdNdOdPdQdRdSdTdUdVdWdXdYdZbFALLING DIAGONALbFRAKTUR CAPITAL AdBdD
dEdFdGdJdKdLdMdNdOdPdQdSdTdUdVdWdXdYcSMALL AdBdCdDdEdFdGdHdIdJdKdLdMdNdOdPdQdRdSdTdUdVdWdXdYdZ
bITALIC CAPITAL AdALPHAdBdBETAdCdCHIdDdDELTAdEdEPSILONdETAdFdGdGAMMAdHdIdIOTAdJdKdKAPPAdLdLAMDAdM
dMUdNdNUdOdOMEGAdOMICRONdPdPHIdPIdPSIdQdRdRHOdSdSIGMAdTdTAUdTHETAeSYMBOLdUdUPSILONdVdWdXdXIdYdZ
dZETAcEPSILON SYMBOLcKAPPA SYMBOLcNABLAcPARTIAL DIFFERENTIALcPHI SYMBOLcPI SYMBOLcRHO SYMBOL
cSMALL AdALPHAdBdBETAdCdCHIdDdDELTAdDOTLESS IeJdEdEPSILONdETAdFdFINAL SIGMAdGdGAMMAdIdIOTAdJdK
dKAPPAdLdLAMDAdMdMUdNdNUdOdOMEGAdOMICRONdPdPHIdPIdPSIdQdRdRHOdSdSIGMAdTdTAUdTHETAdUdUPSILONdVdWdX
dXIdYdZdZETAcTHETA SYMBOLbLEFT ANGLE BRACKETcDOUBLE ANGLE BRACKETcFLATTENED PARENTHESIS
cWHITE SQUARE BRACKETdTORTOISE SHELL BRACKETbMONOSPACE CAPITAL AdBdCdDdEdFdGdHdIdJdKdLdMdNdOdPdQdR
dSdTdUdVdWdXdYdZcDIGIT EIGHTdFIVEdFOURdNINEdONEdSEVENdSIXdTHREEdTWOdZEROcSMALL AdBdCdDdEdFdGdHdIdJ
dKdLdMdNdOdPdQdRdSdTdUdVdWdXdYdZbRIGHT ANGLE BRACKETcDOUBLE ANGLE BRACKETcFLATTENED PARENTHESIS
cWHITE SQUARE BRACKETdTORTOISE SHELL BRACKETbRISING DIAGONALbSANS-SERIF BOLD CAPITAL AeALPHAeB
eBETAeCeCHIeDeDELTAeEeEPSILONeETAeFeGeGAMMAeHeIeIOTAeJeKeKAPPAeLeLAMDAeMeMUeNeNUeOeOMEGAeOMICRONeP
ePHIePIePSIeQeReRHOeSeSIGMAeTeTAUeTHETAfSYMBOLeUeUPSILONeVeWeXeXIeYeZeZETAdDIGIT EIGHTeFIVEeFOUR
eNINEeONEeSEVENeSIXeTHREEeTWOeZEROdEPSILON SYMBOLdITALIC CAPITAL AfALPHAfBfBETAfCfCHIfDfDELTAfE
fEPSILONfETAfFfGfGAMMAfHfIfIOTAfJfKfKAPPAfLfLAMDAfMfMUfNfNUfOfOMEGAfOMICRONfPfPHIfPIfPSIfQfRfRHOfS
fSIGMAfTfTAUfTHETAgSYMBOLfUfUPSILONfVfWfXfXIfYfZfZETAeEPSILON SYMBOLeKAPPA SYMBOLeNABLA
ePARTIAL DIFFERENTIALePHI SYMBOLePI SYMBOLeRHO SYMBOLeSMALL AfALPHAfBfBETAfCfCHIfDfDELTAfEfEPSILON
fETAfFfFINAL SIGMAfGfGAMMAfHfIfIOTAfJfKfKAPPAfLfLAMDAfMfMUfNfNUfOfOMEGAfOMICRONfPfPHIfPIfPSIfQfR
fRHOfSfSIGMAfTfTAUfTHETAfUfUPSILONfVfWfXfXIfYfZfZETAeTHETA SYMBOLdKAPPA SYMBOLdNABLA
dPARTIAL DIFFERENTIALdPHI SYMBOLdPI SYMBOLdRHO SYMBOLdSMALL AeALPHAeBeBETAeCeCHIeDeDELTAeEeEPSILON
eETAeFeFINAL SIGMAeGeGAMMAeHeIeIOTAeJeKeKAPPAeLeLAMDAeMeMUeNeNUeOeOMEGAeOMICRONePePHIePIePSIeQeR
eRHOeSeSIGMAeTeTAUeTHETAeUeUPSILONeVeWeXeXIeYeZeZETAdTHETA SYMBOLcCAPITAL AdBdCdDdEdFdGdHdIdJdKdL
dMdNdOdPdQdRdSdTdUdVdWdXdYdZcDIGIT EIGHTdFIVEdFOURdNINEdONEdSEVENdSIXdTHREEdTWOdZERO
cITALIC CAPITAL AeBeCeDeEeFeGeHeIeJeKeLeMeNeOePeQeReSeTeUeVeWeXeYeZdSMALL AeBeCeDeEeFeGeHeIeJeKeL
eMeNeOePeQeReSeTeUeVeWeXeYeZcSMALL AdBdCdDdEdFdGdHdIdJdKdLdMdNdOdPdQdRdSdTdUdVdWdXdYdZ
bSCRIPT CAPITAL AdCdDdGdJdKdNdOdPdQdSdTdUdVdWdXdYdZcSMALL AdBdCdDdFdHdIdJdKdLdMdNdPdQdRdSdTdUdVdW
dXdYdZaMAXIMIZEaMAYAN NUMERAL EIGHTcEIGHTEENcELEVENcFIFTEENcFIVEcFOURcFOURTEENcNINEcNINETEENcONE
cSEVENcSEVENTEENcSIXcSIXTEENcTENcTHIRTEENcTHREEcTWELVEcTWOcZEROaMEASURED ANGLEcOPENING LEFT
cWITH OPEN ARM ENDING IN ARROW POINTING DOWN AND LEFTlRIGHTjLEFT AND DOWNlUPjRIGHT AND DOWNlUP
jUP AND LEFTlRIGHTbBYbRIGHT ANGLE WITH DOTaMEAT ON BONEaMECHANICAL ARMbLEG
aMEDEFAIDRIN CAPITAL LETTER AdAIdATIUdBdCdDdEdFdGdHdHPdIdJdKdKPdLdMdNdNGdNYdOdOEdPdQdRdSdTdUdVdWdX
dYdYUdZbCOMMAbDIGIT EIGHTcFIVEcFOURcNINEcONEdALTERNATE FORMcSEVENcSIXcTHREEdALTERNATE FORMcTWO
dALTERNATE FORMcZERObEXCLAMATION OHbFULL STOPbNUMBER EIGHTEENcELEVENcFIFTEENcFOURTEENcNINETEEN
cSEVENTEENcSIXTEENcTENcTHIRTEENcTWELVEbSMALL LETTER AdAIdATIUdBdCdDdEdFdGdHdHPdIdJdKdKPdLdMdNdNG
dNYdOdOEdPdQdRdSdTdUdVdWdXdYdYUdZbSYMBOL AIVAaMEDIEVAL COMMAbEXCLAMATION MARKbQUESTION MARK
aMEDIUM BLACK CIRCLEbBOLD WHITE CIRCLEbEIGHT POINTED BLACK STARcSPOKED ASTERISK
bFIVE SPOKED ASTERISKbFLATTENED LEFT PARENTHESIS ORNAMENTcRIGHT PARENTHESIS ORNAMENT
bFOUR POINTED BLACK STARdPINWHEEL STARbGREEK CROSSbLEFT CURLY BRACKET ORNAMENT
cPARENTHESIS ORNAMENTbLEFT-POINTING ANGLE BRACKET ORNAMENTbMATHEMATICAL SPACE
bRIGHT CURLY BRACKET ORNAMENTcPARENTHESIS ORNAMENTbRIGHT-POINTING ANGLE BRACKET ORNAMENTbSALTIRE
bSHADEbSIX POINTED BLACK STARcSPOKED ASTERISKbSMALL WHITE CIRCLEbTHREE POINTED BLACK STAR
dPINWHEEL STARbVERTICAL BARbWHITE CIRCLEcSQUAREaMEETEI MAYEK AHANG KHUDAMcANJIcAPUN IYEKcCHEIKHAN
cCHEIKHEIcDIGIT EIGHTdFIVEdFOURdNINEdONEdSEVENdSIXdTHREEdTWOdZEROcLETTER ATIYAdBAdBHAMdCHAdCHIL
dDDAdDDHAdDHOUdDILdEdGHOUdGOKdHUKdIeLONSUMdJHAMdJILdKHOUdKOKeLONSUMdLAIeLONSUMdMITeLONSUMdNA
eLONSUMdNGOUeLONSUMdNNAdNYAdOdPAeLONSUMdPHAMdRAIdSAMdSHAdSSAdTHOUdTILeLONSUMdTTAdTTHAdUNdWAIdYANG
cLUM IYEKcSYLLABLE REPETITION MARKcVIRAMAcVOWEL SIGN AAIeAAUeANAPeAUeCHEINAPeIIeINAPeNUNGeONAP
eSOUNAPeUNAPeUUeVISARGAeYENAPcWORD REPETITION MARKaMELONaMELTING FACEaMEMO
aMENDE KIKAKUI COMBINING NUMBER HUNDRED THOUSANDSeHUNDREDSeMILLIONSeTEENSeTEN THOUSANDSeTENS
eTHOUSANDScDIGIT EIGHTdFIVEdFOURdNINEdONEdSEVENdSIXdTHREEdTWOcSYLLABLE M001 KIdM002 KAdM003 KU
dM004 WIdM005 WAdM006 WUdM007 MINdM008 MANdM009 MUNdM010 BIdM011 BAdM012 BUdM013 IdM014 AdM015 U
dM016 DIdM017 DAdM018 DUdM019 SIdM020 SAdM021 SUdM022 TIdM023 TAdM024 TUdM025 LIdM026 LAdM027 LU
dM028 JIdM029 JAdM030 JUdM031 YIdM032 YAdM033 YUdM034 FIdM035 FAdM036 FUdM037 NINdM038 NAN
dM039 NUNdM040 HEEdM041 HAdM042 HOOdM043 NGGAdM044 KPEEdM045 WOdM046 HUANdM047 MBEEdM048 KO
dM049 WVAdM050 PUdM051 PEdM052 HENdM053 HINdM054 LOOdM055 TEdM056 GBAdM057 NGONdM058 NYANdM059 MEN
dM060 NYONdM061 WVIdM062 MBAdM063 JOdM064 NDOdM065 KEEdM066 POdM067 NDOOdM068 PIdM069 TOdM070 GBO
dM071 GBOOdM072 MBEdM073 LEdM074 KPUdM075 FEdM076 KOOdM077 VOdM078 FEEdM079 SOdM080 YEdM081 PEE
dM082 NGGUdM083 HEEIdM084 LEEdM085 VEdM086 LONG NGGEdM087 HUNdM088 FOdM089 DEEdM090 NGGIdM091 TEE
dM092 KPAdM093 GBEEdM094 MONdM095 KEdM096 HEdM097 BEdM098 NYENdM099 PAdM100 EdM101 FANdM102 POO
dM103 BOOdM104 TOOdM105 LONG MBOOdM106 LONG NGGOOdM107 GBEdM108 KPEdM109 YEEdM110 LONG LEdM111 GA
dM112 KPOOdM113 JEdM114 WOOdM115 NGGEEdM116 SEdM117 NENdM118 WEdM119 NDEdM120 NGGOdM121 YO
dM122 MBUdM123 NDIdM124 GBIdM125 NDUdM126 WEEdM127 NGGUAdM128 HOOUdM129 NDAdM130 HANdM131 IN
dM132 KPIdM133 FOOdM134 NJOOdM135 INdM136 SOOdM137 EIdM138 BOdM139 WVEdM140 HOdM141 YOO
dM142 LONG MBOdM143 WEIdM144 VOOdM145 MBIdM146 NGGEdM147 OdM148 GBUdM149 NJEEdM150 BEEdM151 VU
dM152 NJAdM153 LOdM154 MUANdM155 GIdM156 NGGOOdM157 JEEdM158 KPOdM159 NGGAAdM160 JOOdM161 LONG MBE
dM162 SEEdM163 EEdM164 NYINdM165 OOdM166 GUEIdM167 GUANdM168 GUdM169 NONdM170 NYUNdM171 RA
dM172 MBOOdM173 VEEdM174 MBOdM175 LONG JOdM176 HIdM177 NGUANdM178 ENdM179 KUAdM180 DOOdM181 DO
dM182 VIdM183 LONG NGGOdM184 NGENdM185 VAdM186 HUdM187 MBUUdM188 MBEEdM189 MUENdM190 GEEdM191 NDEE
dM192 NJUdM193 HONdM194 WUIdM195 ANdM196 SIAdM197 FUAaMENORAH WITH NINE BRANCHESaMENS SYMBOL
aMERCURYaMEROITIC CURSIVE FRACTION EIGHT TWELFTHSdELEVEN TWELFTHSdFIVE TWELFTHSdFOUR TWELFTHS
dNINE TWELFTHSdONE HALFeTWELFTHdSEVEN TWELFTHSdSIX TWELFTHSdTEN TWELFTHSdTHREE TWELFTHS
dTWO TWELFTHScLETTER AdARCHAIC SAdBAdDAdEdHHAdIdKAdKHAdLAdMAdNAdNEdOdPAdQAdRAdSAdSEdTAdTEdTOdWAdYA
cLOGOGRAM IMNdRMTcNUMBER EIGHTeHUNDREDfTHOUSANDeTHOUSANDdEIGHTY THOUSANDdFIFTYeTHOUSANDdFIVE
eHUNDREDfTHOUSANDeTHOUSANDdFORTYeTHOUSANDdFOUReHUNDREDfTHOUSANDeTHOUSANDdNINEeHUNDREDfTHOUSAND
eTHOUSANDdNINETY THOUSANDdONEeHUNDREDfTHOUSANDeTHOUSANDdSEVENeHUNDREDfTHOUSANDeTHOUSANDdSEVENTY
eTHOUSANDdSIXeHUNDREDfTHOUSANDeTHOUSANDdSIXTYeTHOUSANDdTENeTHOUSANDdTHIRTYeTHOUSANDdTHREEeHUNDRED
fTHOUSANDeTHOUSANDdTWENTYeTHOUSANDdTWOeHUNDREDfTHOUSANDeTHOUSANDbHIEROGLYPHIC LETTER AdBAdBA-2dDA
dEdHHAdIdKAdKHAdLAdMAdNAdNA-2dNEdNE-2dOdPAdQAdRAdRA-2dSAdSA-2dSEdTAdTA-2dTEdTE-2dTOdWAdYA
cSYMBOL VIDJdVIDJ-2aMERPERSONaMESSAGE WAITINGaMETRICAL BREVEbLONG OVER SHORTdTWO SHORTSbPENTASEME
bSHORT OVER LONGbTETRASEMEbTRISEMEbTWO SHORTS JOINEDdOVER LONGaMETROaMIAO LETTER AHcARCHAIC MAdNA
dNGAdZZAcBAcBRIcDAcDDAcDLHAcDLHYAcDZAcDZHAcDZYIcDZZAcFAcGAcGHAcGHHAcHAcHHAcKAcLAcLHAcLHYAcLYAcMA
cMHAcNAcNASALIZATIONcNGAcNGHAcNHAcNNAcNNHAcNYAcNYHAcPAcPLAcQAcQGAcREFORMED TONE-1dTONE-2dTONE-4
dTONE-5dTONE-6dTONE-8dTSHAcRTEcSAcSHAcSSAcSYIcTAcTEcTLHAcTLHYAcTONE-2cTONE-3cTONE-4cTONE-5cTONE-6
cTONE-7cTONE-8cTSAcTSEcTSHAcTSSAcTTAcVAcVFAcWAcXAcYI DZHAdKAdNNAdPAdTAdTSAdTSHAdTTAcZAcZHAcZSA
cZSHAcZZAcZZSAcZZSYAcZZYAbSIGN ASPIRATIONcCONSONANT MODIFIER BARcREFORMED ASPIRATIONdVOICING
bTONE ABOVEcBELOWcRIGHTcTOP RIGHTbVOWEL SIGN AdAAdAEdAEEdAHHdAIdANdANGdAUdEdEAdEIdENdENGdERdERRdI
dIAdIANdIANGdIEdIGdIIdINGdIOdIONGdIUdNdNGdOdOERdOEYdOGdOOdOUdROUNDED EReERRdUdUAdUANdUANGdUEIdUI
dUNGdUOGdUUdVWdWdWOdYdYIdYUIaMICR DASH SYMBOLbON US SYMBOLaMICRO SIGNaMICROBEaMICROPHONE
aMICROSCOPEaMIDDLE DOTbTHIRD WHITE RIGHT POINTING INDEXaMIDLINE HORIZONTAL ELLIPSIS
aMILITARY HELMETbMEDALaMILKY WAYaMILL SIGNaMINIBUSaMINIDISCaMINIMIZEaMINUS SIGNcIN TRIANGLE
cWITH COMMA ABOVEdDOT BELOWdFALLING DOTSdRISING DOTSbTILDEaMINUS-OR-PLUS SIGNaMINYaMIRRORbBALL
aMMSPaMOBILE PHONEcOFFcWITH RIGHTWARDS ARROW AT LEFTaMODELSaMODERN PENTATHLON
aMODI ABBREVIATION SIGNbDANDAbDIGIT EIGHTcFIVEcFOURcNINEcONEcSEVENcSIXcTHREEcTWOcZERObDOUBLE DANDA
bLETTER AcAAcAIcAUcBAcBHAcCAcCHAcDAcDDAcDDHAcDHAcEcGAcGHAcHAcIcIIcJAcJHAcKAcKHAcLAcLLAcMAcNAcNGA
cNNAcNYAcOcPAcPHAcRAcSAcSHAcSSAcTAcTHAcTTAcTTHAcUcUUcVAcVOCALIC LdLLdRdRRcYAbSIGN ANUSVARA
cARDHACANDRAcHUVAcVIRAMAcVISARGAbVOWEL SIGN AAdAIdAUdEdIdIIdOdUdUUdVOCALIC LeLLeReRR
aMODIFIER BREVE WITH INVERTED BREVEbLETTER ACUTE ACCENTcALVEOLAR CLICKcAPOSTROPHEcBEGIN HIGH TONE
dLOW TONEcBILABIAL CLICKcCAPITAL AdAEdBdBARRED BdCdDdEdFdGdHeWITH STROKEdIdJdKdLdMdNdOdOUdPdQdR
dREVERSED EeNdTdUdVdWcCENTRED LEFT HALF RINGdRIGHT HALF RINGcCHINESE TONE YANG PINGfQUfRUfSHANG
eYIN PINGfQUfRUfSHANGcCIRCUMFLEX ACCENTcCOLONcCROSS ACCENTcCYRILLIC ENdHARD SIGNdSOFT SIGN
cDENTAL CLICKcDOT HORIZONTAL BARdSLASHdVERTICAL BARcDOUBLE APOSTROPHEdPRIMEcDOWN ARROWHEADdTACK
cEND HIGH TONEdLOW TONEcEXTRA-HIGH DOTTED LEFT-STEM TONE BAReTONE BARdLEFT-STEM TONE BARdTONE BAR
cEXTRA-LOW DOTTED LEFT-STEM TONE BAReTONE BARdLEFT-STEM TONE BARdTONE BARcGEORGIAN NAR
cGLOTTAL STOPeWITH STROKEcGRAVE ACCENTcHALF TRIANGULAR COLONcHIGH DOTTED LEFT-STEM TONE BAR
eTONE BARdLEFT-STEM TONE BARdTONE BARcLATERAL CLICKcLEFT ARROWHEADdHALF RINGdTACKcLOW ACUTE ACCENT
dCIRCUMFLEX ACCENTdDOTTED LEFT-STEM TONE BAReTONE BARdDOWN ARROWHEADdGRAVE ACCENT
dINVERTED EXCLAMATION MARKdLEFT ARROWeARROWHEADdLEFT-STEM TONE BARdMACRONdRIGHT ARROWHEADdRING
dTILDEdTONE BARdUP ARROWHEADdVERTICAL LINEcLOWER RIGHT CORNER ANGLEcMACRON
cMID DOTTED LEFT-STEM TONE BAReTONE BARdLEFT-STEM TONE BARdTONE BARcMIDDLE DOUBLE ACUTE ACCENT
eGRAVE ACCENTdGRAVE ACCENTcMINUS SIGNcOPEN SHELFcPLUS SIGNcPRIMEcRAISED COLONdDOWN ARROW
dEXCLAMATION MARKdINVERTED EXCLAMATION MARKdUP ARROWcRETROFLEX CLICK WITH RETROFLEX HOOK
cREVERSED COMMAdGLOTTAL STOPfWITH STROKEcRHOTIC HOOKcRIGHT ARROWHEADdHALF RINGdTACKcSHELF
cSHORT EQUALS SIGNcSMALL AdAEdAINdALPHAdBeWITH HOOKdBARRED OdBETAdBOTTOM HALF OdCeWITH CURL
dCAPITAL AAeBeGfWITH HOOKeHeIfWITH STROKEeINVERTED ReLfWITH BELTeNeOEeReUeYdCHIdCLOSED OMEGA
eREVERSED OPEN EdDeWITH HOOKgAND TAILfTAILdDELTAdDEZH DIGRAPHdDOTLESS J WITH STROKEhAND HOOK
dDZ DIGRAPHfWITH CURLgRETROFLEX HOOKdEdENGdESHdETHdEZHdFdFENG DIGRAPHdGeWITH HOOKdGAMMA
dGREEK GAMMAePHIdHeWITH HOOKfSTROKEdHENGeWITH HOOKdI WITH STROKEdIOTAdJeWITH CROSSED-TAILdKdL
eWITH BELTfINVERTED LAZY SfMIDDLE TILDEfPALATAL HOOKfRETROFLEX HOOKhAND BELTdLEZH
eWITH RETROFLEX HOOKdLIGATURE OEdLS DIGRAPHdLZ DIGRAPHdMeWITH HOOKdN WITH LEFT HOOKfRETROFLEX HOOK
dOeWITH STROKEdOPEN EeOdPdPHIdQdReWITH FISHHOOKfTAILdRAMS HORNdREVERSED EeGLOTTAL STOPeOPEN EdS
eWITH CURLfHOOKdSCHWAdSCRIPT GdSIDEWAYS UdTeWITH PALATAL HOOKfRETROFLEX HOOKdTC DIGRAPH WITH CURL
dTESH DIGRAPHdTHETAdTOP HALF OdTS DIGRAPHfWITH RETROFLEX HOOKdTURNED AeAEeALPHAeHeIeM
fWITH LONG LEGeOPEN EeRfWITH HOOKgLONG LEGiAND RETROFLEX HOOKeVeWeYfWITH BELTdUeBAReWITH LEFT HOOK
dUPSILONdVeWITH HOOKfRIGHT HOOKdWdXdYdZeWITH CURLfRETROFLEX HOOKcSTRESS AND HIGH TONEeLOW TONE
cSUPERSCRIPT HALF TRIANGULAR COLONdTRIANGULAR COLONcTRIANGULAR COLONcTURNED COMMAcUNASPIRATED
cUP ARROWHEADdTACKcUScVERTICAL LINEcVOICINGcYANG DEPARTING TONE MARKcYIN DEPARTING TONE MARK
aMODULO TWO SUMaMONEY BAGbWITH WINGSaMONEY-MOUTH FACEaMONGOLIAN BIRGAcWITH DOUBLE ORNAMENT
dORNAMENTbCOLONbCOMMAbDIGIT EIGHTcFIVEcFOURcNINEcONEcSEVENcSIXcTHREEcTWOcZERO
bDOUBLE BIRGA WITH ORNAMENTbELLIPSISbFOUR DOTSbFREE VARIATION SELECTOR FOUReONEeTHREEeTWO
bFULL STOPbINVERTED BIRGAdWITH DOUBLE ORNAMENTbLETTER AcALI GALI AeAHeANUSVARA ONEeBALUDAeCAeDA
eDAGALGAeDAMARUeDDAeHALF UfYAeIeINVERTED UBADAMAeKAeNGAeNNAePAePHAeSSAeTAeTHREE BALUDAeTTAeTTHA
eUBADAMAeVISARGA ONEeZAeZHAcANGcBAcCHAdWITH TWO DOTScCHIcDAcEcEEcFAcGAcHAAcIcJAcKAcKHAcLAcLHAcMA
cMANCHU ALI GALI BHAfCAfCYAfDDHAfDHAfGHAfJHAfLHAfNGAfSSAfTAfTTAfZAfZHAdFAdIdKAdRAdZHAcNAcOcOEcPA
cQAcRAcSAcSHAcSIBE ANGdCHAdDAdEdFAdGAdGAAdHAdHAAdIdIYdJAdKAdPAdRAAdSHAdTAdTSAdUdUEdZAdZHAcTA
cTODO ALI GALI TAfZHAdANGdBAdCHAdDAdDZAdEdGAdGAAdHAAdIdJAdJIAdKAdLONG VOWEL SIGNdMAdNIAdOdOEdPAdQA
dTAdTSAdUdUEdWAdYAcTSAcUcUEcWAcYAcZAcZHIcZRAbMANCHU COMMAcFULL STOPbNIRUGUbROTATED BIRGA
dWITH DOUBLE ORNAMENTeORNAMENTbSIBE SYLLABLE BOUNDARY MARKERbSWIRL BIRGAdWITH DOUBLE ORNAMENT
eORNAMENTbTODO SOFT HYPHENbTRIPLE BIRGA WITH ORNAMENTbTURNED SWIRL BIRGA WITH DOUBLE ORNAMENT
bVOWEL SEPARATORaMONKEYbFACEaMONOGRAM FOR EARTHcYANGcYINaMONORAILaMONOSTABLE SYMBOLaMOOD BUBBLE
aMOON CAKEbVIEWING CEREMONYaMOSQUEaMOSQUITOaMOTHER CHRISTMASaMOTOR BOATbSCOOTER
aMOTORIZED WHEELCHAIRaMOTORWAYaMOUNT FUJIaMOUNTAINbBICYCLISTbCABLEWAYbRAILWAYaMOUSEbFACEbTRAP
aMOUTHaMOVIE CAMERAaMOYAIaMRO DANDAbDIGIT EIGHTcFIVEcFOURcNINEcONEcSEVENcSIXcTHREEcTWOcZERO
bDOUBLE DANDAbLETTER AcBAcCHUcDAcDAIcEcEAcHAIcHAOcKEAAEcKHAIcKOcLAcLANcMAEMcMIMcNGIcNINcOcOLcOOcPA
cPHIcRIcROcSHIcTAcTEKcTHEAcWAcYOaMUCH GREATER-THANbLESS-THANaMULTANI LETTER AcBAcBHAcCAcCHAcDAcDDA
cDDDAcDDHAcDHAcEcGAcGHAcHAcIcJAcJJAcKAcKHAcLAcMAcNAcNNAcNYAcPAcPHAcRAcRHAcRRAcSAcTAcTHAcTTAcTTHAcU
cVAcYAbSECTION MARKaMULTIMAPaMULTIPLE MUSICAL NOTESaMULTIPLICATION SIGNcIN DOUBLE CIRCLE
dLEFT HALF CIRCLEdRIGHT HALF CIRCLEdTRIANGLEcWITH DOT ABOVEdUNDERBARbXaMULTISETbMULTIPLICATION
bUNIONaMUSHROOMaMUSIC FLAT SIGNbNATURAL SIGNbSHARP SIGNaMUSICAL KEYBOARDcWITH JACKSbNOTEbSCORE
bSYMBOL ARPEGGIATO DOWNdUPcBEGIN BEAMdPHRASEdSLURdTIEcBRACEcBRACKETcBREATH MARKcBREVEcBREVISdREST
cC CLEFcCAESURAcCIRCLE X NOTEHEADcCLIMACUScCLIVIScCLUSTER NOTEHEAD BLACKeWHITEcCODA
cCOMBINING ACCENTdACCENT-STACCATOdAUGMENTATION DOTdBENDdDOITdDOUBLE TONGUEdDOWN BOWdFLAG-1dFLAG-2
dFLAG-3dFLAG-4dFLAG-5dFLIPdHARMONICdLOUREdMARCATOdMARCATO-STACCATOdRIPdSMEARdSNAP PIZZICATO
dSPRECHGESANG STEMdSTACCATISSIMOdSTACCATOdSTEMdTENUTOdTREMOLO-1dTREMOLO-2dTREMOLO-3dTRIPLE TONGUE
dUP BOWcCOMMON TIMEcCRESCENDOcCROIXcCUT TIMEcDA CAPOcDAL SEGNOcDAMPdALLcDASHED BARLINEcDECRESCENDO
cDEGREE SLASHcDOUBLE BARLINEdFLATdSHARPcDRUM CLEF-1dCLEF-2cEIGHTH NOTEdRESTcEND BEAMdOF STIMME
dPHRASEdSLURdTIEcF CLEFeOTTAVA ALTAfBASSAcFERMATAdBELOWcFINAL BARLINEcFINGERED TREMOLO-1dTREMOLO-2
dTREMOLO-3cFIVE-LINE STAFFcFLAT DOWNdUPcFORTEcFOUR-LINE STAFFcFOUR-STRING FRETBOARDcFUSA BLACK
dWHITEcG CLEFeOTTAVA ALTAfBASSAcGLISSANDO DOWNdUPcGRACE NOTE NO SLASHeSLASHcGREGORIAN C CLEF
dF CLEFcHALF NOTEdPEDAL MARKdRESTcHAUPTSTIMMEcINVERTED TURNcKIEVAN C CLEFdEIGHTH NOTE STEM DOWNgUP
dEND OF PIECEdFINAL NOTEdFLAT SIGNdHALF NOTEdQUARTER NOTE STEM DOWNgUPdRECITATIVE MARKdWHOLE NOTE
cKORONcLEFT REPEAT SIGNcLONGAdIMPERFECTA RESTdPERFECTA RESTcMAXIMAcMEZZOcMINIMAdBLACKdREST
cMOON NOTEHEAD BLACKeWHITEcMULTI RESTcMULTIPLE MEASURE RESTcNATURAL DOWNdUPcNEBENSTIMME
cNOTEHEAD BLACKcNULL NOTEHEADcONE HUNDRED TWENTY-EIGHTH NOTEfRESTcONE-LINE STAFFcORNAMENT STROKE-1
dSTROKE-10dSTROKE-11dSTROKE-2dSTROKE-3dSTROKE-4dSTROKE-5dSTROKE-6dSTROKE-7dSTROKE-8dSTROKE-9
cOTTAVA ALTAdBASSAcPARENTHESIS NOTEHEADcPEDAL MARKdUP MARKcPES SUBPUNCTIScPIANOcPLUS NOTEHEAD
cPODATUScPORRECTUSdFLEXUScQUARTER NOTEdRESTdTONE FLATeSHARPcQUINDICESIMA ALTAdBASSAcREPEAT DOTS
cREPEATED FIGURE-1dFIGURE-2dFIGURE-3cREVERSE FINAL BARLINEcRIGHT REPEAT SIGNcRINFORZANDOcSCANDICUS
dFLEXUScSEGNOcSEMIBREVIS BLACKdRESTdWHITEcSEMIMINIMA BLACKdRESTdWHITEcSHARP DOWNdUPcSHORT BARLINE
cSINGLE BARLINEcSIX-LINE STAFFcSIX-STRING FRETBOARDcSIXTEENTH NOTEdRESTcSIXTY-FOURTH NOTEdREST
cSORIcSQUARE BdNOTEHEAD BLACKeWHITEcSUBITOcTEMPUS IMPERFECTUM CUM PROLATIONE IMPERFECTA
hDIMINUTION-1hDIMINUTION-2hDIMINUTION-3gPERFECTAdPERFECTUM CUM PROLATIONE IMPERFECTAgPERFECTA
hDIMINUTION-1cTHIRTY-SECOND NOTEdRESTcTHREE-LINE STAFFcTORCULUSdRESUPINUScTR
cTRIANGLE NOTEHEAD DOWN BLACKfWHITEeLEFT BLACKfWHITEeRIGHT BLACKfWHITEeUP BLACKfRIGHT BLACKgWHITE
fWHITEcTRIANGLE-ROUND NOTEHEAD DOWN BLACKfWHITEcTURNdSLASHdUPcTWO-LINE STAFFcVIRGAcVOID NOTEHEAD
cWHOLE NOTEdRESTcWITH FINGERNAILScX NOTEHEADcZaMVSaMWaMYANMAR CONSONANT SIGN MEDIAL HAeRAeWAeYA
dMON MEDIAL LAfMAfNAdSHAN MEDIAL WAbDIGIT EIGHTcFIVEcFOURcNINEcONEcSEVENcSIXcTHREEcTWOcZERO
bLETTER AcAITON RAcAUcBAcBHAcCAcCHAcDAcDDAcDDHAcDHAcEcEASTERN PWO KAREN GHWAfNNAfYWAcGAcGHA
cGREAT SAcHAcIcIIcJAcJHAcKAcKHAcKHAMTI CAdCHAdDDAdDDHAdDHAdFAdGAdHAdHHAdJAdJHAdLLAdNAdNYAdRAdSA
dTTAdTTHAdXAdZAcLAcLLAcMAcMON BBAdBBEdEdJHAdNGAcNAcNGAcNNAcNNYAcNYAcOcPAcPHAcRAcRUMAI PALAUNG FA
cSAcSGAW KAREN SHAcSHAcSHAN AdBAdBHAdCAdCHAdDAdFAdGAdGHAdHAdJHAdKAdKHAdNAdNNAdNYAdPHAdTHAdZA
cSHWE PALAUNG CHAeSHAcSSAcTAcTAI LAING BAeBHAeDAeDDAeDDHAeDHAeFAeGAeGHAeJAeJHAeLLAeNNAeNYAcTHAcTTA
cTTHAcUcUUcVOCALIC LdLLdRdRRcWAcWESTERN PWO KAREN PWAfTHAcYAbLOGOGRAM KHAMTI HMdOAYdQN
bMODIFIER LETTER KHAMTI REDUPLICATIONdSHAN REDUPLICATIONbSHAN DIGIT EIGHTdFIVEdFOURdNINEdONEdSEVEN
dSIXdTHREEdTWOdZERObSIGN ANUSVARAcASATcDOT BELOWcKHAMTI TONE-1dTONE-3cLITTLE SECTION
cPAO KAREN TONEcRUMAI PALAUNG TONE-5cSECTIONcSHAN COUNCIL EMPHATIC TONEeTONE-2eTONE-3dSAWdTONE-2
dTONE-3dTONE-5dTONE-6cTAI LAING TONE-2eTONE-5cVIRAMAcVISARGAcWESTERN PWO KAREN TONE-1fTONE-2
fTONE-3fTONE-4fTONE-5bSYMBOL AFOREMENTIONEDcAITON EXCLAMATIONdONEdTWOcCOMPLETEDcGENITIVEcLOCATIVE
cSHAN EXCLAMATIONdONEbTAI LAING DIGIT EIGHTeFIVEeFOUReNINEeONEeSEVENeSIXeTHREEeTWOeZERO
bTONE MARK SGAW KAREN HATHIfKE PHObVOWEL SIGN AAdAIdAITON AeAIdEeABOVEdGEBA KAREN IdIdIIdKAYAH EE
eOEeUdMON IIeOdSGAW KAREN EUdSHAN AAeEfABOVEeFINAL YdTALL AAdUdUUdVOCALIC LeLLeReRR
dWESTERN PWO KAREN EUgUEaN-ARY CIRCLED DOT OPERATORcPLUS OPERATORcTIMES OPERATORbCOPRODUCT
bINTERSECTIONbLOGICAL ANDcORbPRODUCTbSQUARE INTERSECTION OPERATORcUNION OPERATORbSUMMATION
bTIMES OPERATORbUNIONcOPERATOR WITH DOTePLUSbWHITE VERTICAL BARaNABATAEAN CRUCIFORM NUMBER FOUR
bLETTER ALEPHcAYINcBETHcDALETHcFINAL ALEPHdBETHdHEdKAPHdLAMEDHdMEMdNUNdSHINdYODHcGIMELcHEcHETH
cKAPHcLAMEDHcMEMcNUNcPEcQOPHcRESHcSADHEcSAMEKHcSHINcTAWcTETHcWAWcYODHcZAYINbNUMBER FIVEcFOURcONE
dHUNDREDcTENcTHREEcTWENTYcTWOaNABLAaNAIL POLISHaNAIRA SIGNaNAKaNAME BADGEaNAND
aNANDINAGARI HEADSTROKEbLETTER AcAAcAIcAUcBAcBHAcCAcCHAcDAcDDAcDDHAcDHAcEcGAcGHAcHAcIcIIcJAcJHAcKA
cKHAcLAcLLAcMAcNAcNGAcNNAcNYAcOcPAcPHAcRAcRRAcSAcSHAcSSAcTAcTHAcTTAcTTHAcUcUUcVAcVOCALIC RdRRcYA
bSIGN ANUSVARAcAVAGRAHAcSIDDHAMcVIRAMAcVISARGAbVOWEL SIGN AAdAIdAUdEdIdIIdOdPRISHTHAMATRA EdUdUU
dVOCALIC ReRRaNARROW NO-BREAK SPACEaNATIONAL DIGIT SHAPESbPARKaNAUSEATED FACEaNAZAR AMULETaNBH
aNBSPaNECKTIEaNEGATED DOUBLE VERTICAL BAR DOUBLE RIGHT TURNSTILEaNEGATIVE ACKNOWLEDGE
bCIRCLED DIGIT ZEROcLATIN CAPITAL LETTER AfBfCfDfEfFfGfHfIfJfKfLfMfNfOfPfQfRfSfTfUfVfWfXfYfZ
cNUMBER EIGHTEENdELEVENdFIFTEENdFOURTEENdNINETEENdSEVENTEENdSIXTEENdTHIRTEENdTWELVEdTWENTYcSQUARE
cTRIANGLEbDIAGONAL CROSScDIAMONDcMIDDLE RIGHT TO LOWER CENTREbSQUARED ABcCROSS MARKcIC
cLATIN CAPITAL LETTER AfBfCfDfEfFfGfHfIfJfKfLfMfNfOfPfQfRfSfTfUfVfWfXfYfZcPAcQUESTION MARKcSAcWC
aNEITHER A SUBSET OF NOR EQUAL TOcSUPERSET OF NOR EQUAL TObAPPROXIMATELY NOR ACTUALLY EQUAL TO
bGREATER-THAN NOR EQUAL TOdEQUIVALENT TOdLESS-THANbLESS-THAN NOR EQUAL TOdEQUIVALENT TO
dGREATER-THANaNELaNEPTUNEbFORM TWOaNERD FACEaNESSUSaNEST WITH EGGSaNESTING DOLLSaNEUTER
aNEUTRAL CHESS BISHOPdROTATED NINETY DEGREESeTWO HUNDRED SEVENTY DEGREEScEQUIHOPPER
dROTATED NINETY DEGREEScKINGdROTATED NINETY DEGREESeTWO HUNDRED SEVENTY DEGREEScKNIGHT
dROTATED FORTY-FIVE DEGREESeNINETY DEGREESeONE HUNDRED THIRTY-FIVE DEGREES
eTHREE HUNDRED FIFTEEN DEGREESeTWO HUNDRED SEVENTY DEGREESgTWENTY-FIVE DEGREEScPAWN
dROTATED NINETY DEGREESeTWO HUNDRED SEVENTY DEGREEScQUEENdROTATED NINETY DEGREES
eTWO HUNDRED SEVENTY DEGREEScROOKdROTATED NINETY DEGREESeTWO HUNDRED SEVENTY DEGREEScTURNED BISHOP
dKINGdKNIGHTdPAWNdQUEENdROOKbFACEaNEW LINEbMOON SYMBOLcWITH FACEbSHEQEL SIGNbTAI LUE DIGIT EIGHT
eFIVEeFOUReNINEeONEeSEVENeSIXeTHREEeTWOeZEROdLETTER FINAL BfDfKfMfNfNGfVeHIGH BAfDAfFAfHAfKAfKVA
fLAfMAfNAfNGAfPAfPHAfQAfSAfSUAfTAfTHAfTSAfVAfXAfXVAfYAeLOW BAfDAfFAfHAfKAfKVAfLAfMAfNAfNGAfPAfPHA
fQAfSAfSUAfTAfTHAfTSAfVAfXAfXVAfYAdSIGN LAEeLAEVdTHAM DIGIT ONEdTONE MARK-1eMARK-2dVOWEL SIGN AA
fAAYfAEfAYfEfIIfIYfOfOAfOAYfOYfUfUEfUEYfUUfUYfVOWEL SHORTENERaNEWA ABBREVIATION SIGNbCOMMAbDANDA
bDIGIT EIGHTcFIVEcFOURcNINEcONEcSEVENcSIXcTHREEcTWOcZERObDOUBLE COMMAcDANDAbGAP FILLER
bINSERTION SIGNbLETTER AcAAcAIcAUcBAcBHAcCAcCHAcDAcDDAcDDHAcDHAcEcGAcGHAcHAcIcIIcJAcJHAcKAcKHAcLA
cLHAcMAcMHAcNAcNGAcNGHAcNHAcNNAcNYAcNYHAcOcPAcPHAcRAcRHAcSAcSHAcSSAcTAcTHAcTTAcTTHAcUcUU
cVEDIC ANUSVARAcVOCALIC LdLLdRdRRcWAcYAbOMbPLACEHOLDER MARKbSANDHI MARKbSIDDHIbSIGN ANUSVARA
cAVAGRAHAcCANDRABINDUcFINAL ANUSVARAcJIHVAMULIYAcNUKTAcUPADHMANIYAcVIRAMAcVISARGAbVOWEL SIGN AAdAI
dAUdEdIdIIdOdUdUUdVOCALIC LeLLeReRRaNEWLINE LEFTbRIGHTaNEWSPAPERaNEXT LINEbPAGEaNIGHT WITH STARS
aNINJAaNKO COMBINING DOUBLE DOT ABOVEcLONG DESCENDING TONEdHIGH TONEdLOW TONEdRISING TONE
cNASALIZATION MARKcSHORT HIGH TONEdLOW TONEdRISING TONEbCOMMAbDANTAYALANbDIGIT EIGHTcFIVEcFOUR
cNINEcONEcSEVENcSIXcTHREEcTWOcZERObDOROME SIGNbEXCLAMATION MARKbHIGH TONE APOSTROPHEbLAJANYALAN
bLETTER AcBAcCHAcDAcDAGBASINNAcEcEEcFAcGBAcHAcIcJAcJONA CHAdJAdRAcKAcLAcMAcNcNAdWOLOSOcNYAdWOLOSO
cOcOOcPAcRAcRRAcSAcTAcUcWAcYAbLOW TONE APOSTROPHEbSYMBOL GBAKURUNENcOO DENNENbTAMAN SIGNaNLaNNBSP
aNO BICYCLESbBREAK HEREbENTRYcSIGNbMOBILE PHONESbONE UNDER EIGHTEEN SYMBOLbPEDESTRIANSbPIRACY
bSMOKING SYMBOLaNO-BREAK SPACEaNOMINAL DIGIT SHAPESaNOMISMA SIGNaNON-BREAKING HYPHEN
aNON-POTABLE WATER SYMBOLaNONFORKINGaNORaNORDIC MARK SIGNaNORMAL SUBGROUP OFdOR EQUAL TO
aNORTH EAST AND SOUTH WEST ARROWcARROWdAND SOUTH EAST ARROWdCROSSING NORTH WEST ARROW
eSOUTH EAST ARROWdWITH HOOKcBLACK ARROWcDOUBLE ARROWcPOINTING BUDdLEAFdVINE LEAFcSANS-SERIF ARROW
cTRIANGLE-HEADED ARROWeTO BARcWHITE ARROWbINDIC FRACTION ONE EIGHTHeHALFeQUARTEReSIXTEENTH
dTHREE QUARTERSeSIXTEENTHScPLACEHOLDER MARKcQUANTITY MARKcQUARTER MARKcRUPEE MARK
bWEST AND SOUTH EAST ARROWcARROWdAND NORTH EAST ARROWdCROSSING NORTH EAST ARROWdTO CORNEReLONG BAR
dWITH HOOKcBLACK ARROWcDOUBLE ARROWcPOINTING BUDdLEAFdVINE LEAFcSANS-SERIF ARROW
cTRIANGLE-HEADED ARROWeTO BARcWHITE ARROWaNORTHEAST-POINTING AIRPLANEaNOSEaNOT A SUBSET OF
cSUPERSET OFbALMOST EQUAL TObAN ELEMENT OFbASYMPTOTICALLY EQUAL TObCHECK MARKbEQUAL TO
bEQUIVALENT TObGREATER-THANbIDENTICAL TObLESS-THANbNORMAL SUBGROUP OFeOR EQUAL TObPARALLEL TObSIGN
bSQUARE IMAGE OF OR EQUAL TOcORIGINAL OF OR EQUAL TObTILDEbTRUE
aNOTCHED LEFT SEMICIRCLE WITH THREE DOTSbLOWER RIGHT-SHADOWED WHITE RIGHTWARDS ARROW
bRIGHT SEMICIRCLE WITH THREE DOTSbUPPER RIGHT-SHADOWED WHITE RIGHTWARDS ARROWaNOTEbPADbPAGE
aNOTEBOOKbWITH DECORATIVE COVERaNULaNULLaNUMBER EIGHTEEN FULL STOPbELEVEN FULL STOP
bFIFTEEN FULL STOPbFOURTEEN FULL STOPbNINETEEN FULL STOPbSEVENTEEN FULL STOPbSIGN
bSIXTEEN FULL STOPbTEN FULL STOPbTHIRTEEN FULL STOPbTWELVE FULL STOPbTWENTY FULL STOPaNUMERO SIGN
aNUSHU CHARACTER-1B170bCHARACTER-1B171bCHARACTER-1B172bCHARACTER-1B173bCHARACTER-1B174
bCHARACTER-1B175bCHARACTER-1B176bCHARACTER-1B177bCHARACTER-1B178bCHARACTER-1B179bCHARACTER-1B17A
bCHARACTER-1B17BbCHARACTER-1B17CbCHARACTER-1B17DbCHARACTER-1B17EbCHARACTER-1B17FbCHARACTER-1B180
bCHARACTER-1B181bCHARACTER-1B182bCHARACTER-1B183bCHARACTER-1B184bCHARACTER-1B185bCHARACTER-1B186
bCHARACTER-1B187bCHARACTER-1B188bCHARACTER-1B189bCHARACTER-1B18AbCHARACTER-1B18BbCHARACTER-1B18C
bCHARACTER-1B18DbCHARACTER-1B18EbCHARACTER-1B18FbCHARACTER-1B190bCHARACTER-1B191bCHARACTER-1B192
bCHARACTER-1B193bCHARACTER-1B194bCHARACTER-1B195bCHARACTER-1B196bCHARACTER-1B197bCHARACTER-1B198
bCHARACTER-1B199bCHARACTER-1B19AbCHARACTER-1B19BbCHARACTER-1B19CbCHARACTER-1B19DbCHARACTER-1B19E
bCHARACTER-1B19FbCHARACTER-1B1A0bCHARACTER-1B1A1bCHARACTER-1B1A2bCHARACTER-1B1A3bCHARACTER-1B1A4
bCHARACTER-1B1A5bCHARACTER-1B1A6bCHARACTER-1B1A7bCHARACTER-1B1A8bCHARACTER-1B1A9bCHARACTER-1B1AA
bCHARACTER-1B1ABbCHARACTER-1B1ACbCHARACTER-1B1ADbCHARACTER-1B1AEbCHARACTER-1B1AFbCHARACTER-1B1B0
bCHARACTER-1B1B1bCHARACTER-1B1B2bCHARACTER-1B1B3bCHARACTER-1B1B4bCHARACTER-1B1B5bCHARACTER-1B1B6
bCHARACTER-1B1B7bCHARACTER-1B1B8bCHARACTER-1B1B9bCHARACTER-1B1BAbCHARACTER-1B1BBbCHARACTER-1B1BC
bCHARACTER-1B1BDbCHARACTER-1B1BEbCHARACTER-1B1BFbCHARACTER-1B1C0bCHARACTER-1B1C1bCHARACTER-1B1C2
bCHARACTER-1B1C3bCHARACTER-1B1C4bCHARACTER-1B1C5bCHARACTER-1B1C6bCHARACTER-1B1C7bCHARACTER-1B1C8
bCHARACTER-1B1C9bCHARACTER-1B1CAbCHARACTER-1B1CBbCHARACTER-1B1CCbCHARACTER-1B1CDbCHARACTER-1B1CE
bCHARACTER-1B1CFbCHARACTER-1B1D0bCHARACTER-1B1D1bCHARACTER-1B1D2bCHARACTER-1B1D3bCHARACTER-1B1D4
bCHARACTER-1B1D5bCHARACTER-1B1D6bCHARACTER-1B1D7bCHARACTER-1B1D8bCHARACTER-1B1D9bCHARACTER-1B1DA
bCHARACTER-1B1DBbCHARACTER-1B1DCbCHARACTER-1B1DDbCHARACTER-1B1DEbCHARACTER-1B1DFbCHARACTER-1B1E0
bCHARACTER-1B1E1bCHARACTER-1B1E2bCHARACTER-1B1E3bCHARACTER-1B1E4bCHARACTER-1B1E5bCHARACTER-1B1E6
bCHARACTER-1B1E7bCHARACTER-1B1E8bCHARACTER-1B1E9bCHARACTER-1B1EAbCHARACTER-1B1EBbCHARACTER-1B1EC
bCHARACTER-1B1EDbCHARACTER-1B1EEbCHARACTER-1B1EFbCHARACTER-1B1F0bCHARACTER-1B1F1bCHARACTER-1B1F2
bCHARACTER-1B1F3bCHARACTER-1B1F4bCHARACTER-1B1F5bCHARACTER-1B1F6bCHARACTER-1B1F7bCHARACTER-1B1F8
bCHARACTER-1B1F9bCHARACTER-1B1FAbCHARACTER-1B1FBbCHARACTER-1B1FCbCHARACTER-1B1FDbCHARACTER-1B1FE
bCHARACTER-1B1FFbCHARACTER-1B200bCHARACTER-1B201bCHARACTER-1B202bCHARACTER-1B203bCHARACTER-1B204
bCHARACTER-1B205bCHARACTER-1B206bCHARACTER-1B207bCHARACTER-1B208bCHARACTER-1B209bCHARACTER-1B20A
bCHARACTER-1B20BbCHARACTER-1B20CbCHARACTER-1B20DbCHARACTER-1B20EbCHARACTER-1B20FbCHARACTER-1B210
bCHARACTER-1B211bCHARACTER-1B212bCHARACTER-1B213bCHARACTER-1B214bCHARACTER-1B215bCHARACTER-1B216
bCHARACTER-1B217bCHARACTER-1B218bCHARACTER-1B219bCHARACTER-1B21AbCHARACTER-1B21BbCHARACTER-1B21C
bCHARACTER-1B21DbCHARACTER-1B21EbCHARACTER-1B21FbCHARACTER-1B220bCHARACTER-1B221bCHARACTER-1B222
bCHARACTER-1B223bCHARACTER-1B224bCHARACTER-1B225bCHARACTER-1B226bCHARACTER-1B227bCHARACTER-1B228
bCHARACTER-1B229bCHARACTER-1B22AbCHARACTER-1B22BbCHARACTER-1B22CbCHARACTER-1B22DbCHARACTER-1B22E
bCHARACTER-1B22FbCHARACTER-1B230bCHARACTER-1B231bCHARACTER-1B232bCHARACTER-1B233bCHARACTER-1B234
bCHARACTER-1B235bCHARACTER-1B236bCHARACTER-1B237bCHARACTER-1B238bCHARACTER-1B239bCHARACTER-1B23A
bCHARACTER-1B23BbCHARACTER-1B23CbCHARACTER-1B23DbCHARACTER-1B23EbCHARACTER-1B23FbCHARACTER-1B240
bCHARACTER-1B241bCHARACTER-1B242bCHARACTER-1B243bCHARACTER-1B244bCHARACTER-1B245bCHARACTER-1B246
bCHARACTER-1B247bCHARACTER-1B248bCHARACTER-1B249bCHARACTER-1B24AbCHARACTER-1B24BbCHARACTER-1B24C
bCHARACTER-1B24DbCHARACTER-1B24EbCHARACTER-1B24FbCHARACTER-1B250bCHARACTER-1B251bCHARACTER-1B252
bCHARACTER-1B253bCHARACTER-1B254bCHARACTER-1B255bCHARACTER-1B256bCHARACTER-1B257bCHARACTER-1B258
bCHARACTER-1B259bCHARACTER-1B25AbCHARACTER-1B25BbCHARACTER-1B25CbCHARACTER-1B25DbCHARACTER-1B25E
bCHARACTER-1B25FbCHARACTER-1B260bCHARACTER-1B261bCHARACTER-1B262bCHARACTER-1B263bCHARACTER-1B264
bCHARACTER-1B265bCHARACTER-1B266bCHARACTER-1B267bCHARACTER-1B268bCHARACTER-1B269bCHARACTER-1B26A
bCHARACTER-1B26BbCHARACTER-1B26CbCHARACTER-1B26DbCHARACTER-1B26EbCHARACTER-1B26FbCHARACTER-1B270
bCHARACTER-1B271bCHARACTER-1B272bCHARACTER-1B273bCHARACTER-1B274bCHARACTER-1B275bCHARACTER-1B276
bCHARACTER-1B277bCHARACTER-1B278bCHARACTER-1B279bCHARACTER-1B27AbCHARACTER-1B27BbCHARACTER-1B27C
bCHARACTER-1B27DbCHARACTER-1B27EbCHARACTER-1B27FbCHARACTER-1B280bCHARACTER-1B281bCHARACTER-1B282
bCHARACTER-1B283bCHARACTER-1B284bCHARACTER-1B285bCHARACTER-1B286bCHARACTER-1B287bCHARACTER-1B288
bCHARACTER-1B289bCHARACTER-1B28AbCHARACTER-1B28BbCHARACTER-1B28CbCHARACTER-1B28DbCHARACTER-1B28E
bCHARACTER-1B28FbCHARACTER-1B290bCHARACTER-1B291bCHARACTER-1B292bCHARACTER-1B293bCHARACTER-1B294
bCHARACTER-1B295bCHARACTER-1B296bCHARACTER-1B297bCHARACTER-1B298bCHARACTER-1B299bCHARACTER-1B29A
bCHARACTER-1B29BbCHARACTER-1B29CbCHARACTER-1B29DbCHARACTER-1B29EbCHARACTER-1B29FbCHARACTER-1B2A0
bCHARACTER-1B2A1bCHARACTER-1B2A2bCHARACTER-1B2A3bCHARACTER-1B2A4bCHARACTER-1B2A5bCHARACTER-1B2A6
bCHARACTER-1B2A7bCHARACTER-1B2A8bCHARACTER-1B2A9bCHARACTER-1B2AAbCHARACTER-1B2ABbCHARACTER-1B2AC
bCHARACTER-1B2ADbCHARACTER-1B2AEbCHARACTER-1B2AFbCHARACTER-1B2B0bCHARACTER-1B2B1bCHARACTER-1B2B2
bCHARACTER-1B2B3bCHARACTER-1B2B4bCHARACTER-1B2B5bCHARACTER-1B2B6bCHARACTER-1B2B7bCHARACTER-1B2B8
bCHARACTER-1B2B9bCHARACTER-1B2BAbCHARACTER-1B2BBbCHARACTER-1B2BCbCHARACTER-1B2BDbCHARACTER-1B2BE
bCHARACTER-1B2BFbCHARACTER-1B2C0bCHARACTER-1B2C1bCHARACTER-1B2C2bCHARACTER-1B2C3bCHARACTER-1B2C4
bCHARACTER-1B2C5bCHARACTER-1B2C6bCHARACTER-1B2C7bCHARACTER-1B2C8bCHARACTER-1B2C9bCHARACTER-1B2CA
bCHARACTER-1B2CBbCHARACTER-1B2CCbCHARACTER-1B2CDbCHARACTER-1B2CEbCHARACTER-1B2CFbCHARACTER-1B2D0
bCHARACTER-1B2D1bCHARACTER-1B2D2bCHARACTER-1B2D3bCHARACTER-1B2D4bCHARACTER-1B2D5bCHARACTER-1B2D6
bCHARACTER-1B2D7bCHARACTER-1B2D8bCHARACTER-1B2D9bCHARACTER-1B2DAbCHARACTER-1B2DBbCHARACTER-1B2DC
bCHARACTER-1B2DDbCHARACTER-1B2DEbCHARACTER-1B2DFbCHARACTER-1B2E0bCHARACTER-1B2E1bCHARACTER-1B2E2
bCHARACTER-1B2E3bCHARACTER-1B2E4bCHARACTER-1B2E5bCHARACTER-1B2E6bCHARACTER-1B2E7bCHARACTER-1B2E8
bCHARACTER-1B2E9bCHARACTER-1B2EAbCHARACTER-1B2EBbCHARACTER-1B2ECbCHARACTER-1B2EDbCHARACTER-1B2EE
bCHARACTER-1B2EFbCHARACTER-1B2F0bCHARACTER-1B2F1bCHARACTER-1B2F2bCHARACTER-1B2F3bCHARACTER-1B2F4
bCHARACTER-1B2F5bCHARACTER-1B2F6bCHARACTER-1B2F7bCHARACTER-1B2F8bCHARACTER-1B2F9bCHARACTER-1B2FA
bCHARACTER-1B2FBbITERATION MARKaNUT AND BOLTaNYIAKENG PUACHUE HMONG CIRCLED CAdDIGIT EIGHTeFIVE
eFOUReNINEeONEeSEVENeSIXeTHREEeTWOeZEROdLETTER AeAAeCAeDAeDLAeEeEEeFAeGAeHAeHAHeIeKAeLAeMAeMLAeNA
eNCAeNKAeNPAeNPLAeNQAeNRAeNTAeNTSAeNTXAeNYAeOeOOePAePLAeQAeRAeRRAeSAeTAeTSAeTXAeUeVAeWeXAeXYAeYA
eZAdLOGOGRAM NYAJdSIGN FOR ANIMALfINVERTEBRATEfLOCATIONfPERSONfTHINGeXW XWdSYLLABLE LENGTHENER
dTONE-BdTONE-DdTONE-GdTONE-JdTONE-MdTONE-SdTONE-VaOBJECT REPLACEMENT CHARACTER
aOBLIQUE ANGLE OPENING DOWNdUPbHYPHENaOBSERVER EYE SYMBOLaOCR AMOUNT OF CHECKbBELT BUCKLEbBOW TIE
bBRANCH BANK IDENTIFICATIONbCHAIRbCUSTOMER ACCOUNT NUMBERbDASHbDOUBLE BACKSLASHbFORKbHOOK
bINVERTED FORKaOCTAGONAL SIGNaOCTOPUSaODENaOFFICE BUILDINGaOGHAM FEATHER MARKbLETTER AILMcBEITH
cCEIRTcCOLLcDAIRcEABHADHcEADHADHcEAMHANCHOLLcFEARNcGORTcIFINcIODHADHcLUIScMUINcNGEADALcNIONcONNcOR
cPEITHcRUIScSAILcSTRAIFcTINNEcUATHcUILLEANNcURbREVERSED FEATHER MARKbSPACE MARKaOGONEKaOHM SIGN
aOIL DRUMaOK HAND SIGNaOL CHIKI AHADcDIGIT EIGHTdFIVEdFOURdNINEdONEdSEVENdSIXdTHREEdTWOdZERO
cGAAHLAA TTUDDAAGcLETTER AAJdAAKdAAMdAAWdAGdALdANGdATdEDDdENdEPdERRdIHdINYdIRdISdLAdLAAdLEdLIdLO
dLUdOBdOHdOTTdOVdUCdUDdUNNdUYcMU TTUDDAGcMU-GAAHLAA TTUDDAAGcPHAARKAAcPUNCTUATION DOUBLE MUCAAD
dMUCAADcRELAAaOLD CHINESE HOOK MARKcITERATION MARKbHUNGARIAN CAPITAL LETTER AeAAeAKeAMBeAND
eCLOSE EeEeEBeECeECHeECSeEDeEEeEFeEGeEGYeEHeEJeEKeELeELYeEMeEMPeENeENCeENTeENT-SHAPED SIGNeENYeEP
eEReESeESZeETeETYeEVeEZeEZSeIeIIeNIKOLSBURG OEfUEeOeOEEeOOeRUDIMENTA OEfUEeSHORT EReUeUNKeUSeUU
cNUMBER FIFTYdFIVEdONEeHUNDREDeTHOUSANDdTENcSMALL LETTER AeAAeAKeAMBeANDeCLOSE EeEeEBeECeECHeECS
eEDeEEeEFeEGeEGYeEHeEJeEKeELeELYeEMeEMPeENeENCeENTeENT-SHAPED SIGNeENYeEPeEReESeESZeETeETYeEVeEZ
eEZSeIeIIeNIKOLSBURG OEfUEeOeOEEeOOeRUDIMENTA OEfUEeSHORT EReUeUNKeUSeUUbITALIC LETTER AdBEdCHEdDE
dEdEFdEKSdELdEMdENdERdERSdESdESHdESSdHEdIdIIdKAdKEdKHEdKUdNORTHERN TSEdOdPEdPHEdSHEdSOUTHERN TSE
dTEdTHEdUdUUdVEdYEdZEcNUMERAL FIFTYdFIVEdONEdTENbKEYbNORTH ARABIAN LETTER AINeALEFeBEHeDADeDAL
eES-1eES-2eES-3eFEHeGEEMeGHAINeHAHeHEHeKAFeKHAHeLAMeMEEMeNOONeQAFeREHeSADeTAHeTEHeTHALeTHEHeWAW
eYEHeZAHeZAINdNUMBER ONEeTENeTWENTYbPERMIC LETTER ANdBURdCHERYdDOIdDZHOIdDZITAdEdEFdGAIdHAdIdIAdIE
dKOKEdLEIdMENOEdNENOEdOdOOdPEEIdREIdSHCHOOIdSHOOIdSIIdTAIdTSIUdUdVERdVOOIdYAdYATdYERdYERIdYERUdYRY
dYUdZATAdZHOIbPERSIAN NUMBER HUNDREDdONEdTENdTWENTYdTWOcSIGN AdAURAMAZDAAdAURAMAZDAA-2
dAURAMAZDAAHAdBAdBAGAdBUUMISHdCAdDAdDAHYAAUSHdDAHYAAUSH-2dDIdDUdFAdGAdGUdHAdIdJAdJIdKAdKUdLAdMAdMI
dMUdNAdNUdPAdRAdRUdSAdSHAdSSAdTAdTHAdTUdUdVAdVIdXAdXSHAAYATHIYAdYAdZAcWORD DIVIDER
bPERSONAL COMPUTERbSOGDIAN FRACTION ONE HALFcLETTER ALEPHdALTERNATE AYINdAYINdBETHdFINAL ALEPH
eBETHeHEeNUNfWITH VERTICAL TAILeSADHEfWITH VERTICAL TAILeTAWfWITH VERTICAL TAILdGIMELdHEdHETHdKAPH
dLAMEDHdMEMdNUNdPEdRESH-AYIN-DALETHdSADHEdSAMEKHdSHINdTAWdWAWdYODHdZAYINcLIGATURE AYIN-DALETH
cNUMBER FIVEdFOURdONEeHUNDREDdTENdTHIRTYdTHREEdTWENTYdTWObSOUTH ARABIAN LETTER ALEFeAYNeBETH
eDALETHeDHADHEeDHALETHeFEeGHAYNeGIMELeHEeHETHeKAPHeKHETHeLAMEDHeMEMeNUNeQOPHeRESHeSADHEeSAMEKHeSAT
eSHINeTAWeTETHeTHAWeTHETHeWAWeYODHeZAYNdNUMBER FIFTYeONEdNUMERIC INDICATORbTURKIC LETTER ORKHON A
eABeADeAEBeAEDeAEGeAEKeAELeAENeAEReAESeAETeAEYeAGeALeANeAQeAReASeASHeATeAYeBASHeECeELTeEMeENCeENG
eENTeENYeEPeESHeEZeIeICeIQeOeOEeOEKeOPeOQeOTdYENISEI AeABeADeAEeAEBeAEGeAEKeAENeAENGeAETeAEYeAGeAL
eANGeAQeAReASHeATeAYeEeECeENCeENTeENYeESHeEZeIeIQeOEeOEKeOQbUYGHUR COMBINING DOT ABOVEeBELOW
dTWO DOTS ABOVEfBELOWcLETTER ALEPHdBETHdFINAL HETHdGIMEL-HETHdKAPHdLAMEDHdLESHdMEMdNUNdPEdRESH
dSADHEdSAMEKHdSHINdTAWdWAWdYODHdZAYINcPUNCTUATION BARdFOUR DOTSdTWO BARSeDOTSaOLDER ADULTbMAN
bWOMANaOLIVEaOM SYMBOLaON WITH EXCLAMATION MARK WITH LEFT RIGHT ARROW ABOVEaONCOMING AUTOMOBILE
bBUSbFIRE ENGINEbPOLICE CARbTAXIaONE BUTTON MOUSEbDOT LEADERcOVER TWO DOTS PUNCTUATION
aONE-PIECE SWIMSUITaONIONaOPEN BOOKbBOXbCENTRE ASTERISKcBLACK STARcCROSScTEARDROP-SPOKED ASTERISK
bFILE FOLDERbFOLDERbHANDS SIGNbLOCKbMAILBOX WITH LOWERED FLAGdRAISED FLAGbSUBSETbSUPERSET
aOPEN-CIRCUIT-OUTPUT H-TYPE SYMBOLbL-TYPE SYMBOLaOPEN-OUTLINED RIGHTWARDS ARROW
aOPERATING SYSTEM COMMANDaOPHIUCHUSaOPPOSITIONaOPTICAL DISCcICONaOPTION KEYaOR WITH DOT INSIDE
aORANGE BOOKbHEARTaORANGUTANaORIGINAL OFaORIYA AI LENGTH MARKbAU LENGTH MARKbDIGIT EIGHTcFIVEcFOUR
cNINEcONEcSEVENcSIXcTHREEcTWOcZERObFRACTION ONE EIGHTHdHALFdQUARTERdSIXTEENTHcTHREE QUARTERS
dSIXTEENTHSbISSHARbLETTER AcAAcAIcAUcBAcBHAcCAcCHAcDAcDDAcDDHAcDHAcEcGAcGHAcHAcIcIIcJAcJHAcKAcKHA
cLAcLLAcMAcNAcNGAcNNAcNYAcOcPAcPHAcRAcRHAcRRAcSAcSHAcSSAcTAcTHAcTTAcTTHAcUcUUcVAcVOCALIC LdLLdRdRR
cWAcYAcYYAbSIGN ANUSVARAcAVAGRAHAcCANDRABINDUcNUKTAcOVERLINEcVIRAMAcVISARGAbVOWEL SIGN AAdAIdAUdE
dIdIIdOdUdUUdVOCALIC LeLLeReRRaORNATE LEFT PARENTHESISbRIGHT PARENTHESISaORTHODOX CROSS
aOSAGE CAPITAL LETTER AdAHdAIdAINdBRAdCHAdDHAdEdEHCHAdEHKAdEHPAdEHTAdEHTSAdEINdGHAdHAdHYAdIdKAdKHA
dKYAdLAdMAdNAdOdOINdPAdSAdSHAdTAdTSAdTSHAdUdWAdZAdZHAbSMALL LETTER AdAHdAIdAINdBRAdCHAdDHAdEdEHCHA
dEHKAdEHPAdEHTAdEHTSAdEINdGHAdHAdHYAdIdKAdKHAdKYAdLAdMAdNAdOdOINdPAdSAdSHAdTAdTSAdTSHAdUdWAdZAdZHA
aOSCaOSMANYA DIGIT EIGHTcFIVEcFOURcNINEcONEcSEVENcSIXcTHREEcTWOcZERObLETTER AcAAcALEFcBAcCAYNcDEEL
cDHAcEcEEcFAcGAcHAcIcJAcKAAFcKHAcLAANcMIINcNUUNcOcOOcQAAFcRAcSAcSHIINcTAcUcWAWcXAcYAaOTTER
aOTTOMAN SIYAQ ALTERNATE NUMBER EIGHTeFIVEeFOURfHUNDREDeNINEeSEVENeSIXfHUNDREDeTENfTHOUSANDeTHREE
eTWOfTHOUSANDcFRACTION ONE HALFeSIXTHcMARRATANcNUMBER EIGHTeHUNDREDeTHOUSANDdEIGHTYeTHOUSANDdFIFTY
eTHOUSANDdFIVEeHUNDREDeTHOUSANDdFORTYeTHOUSANDdFOUReHUNDREDeTHOUSANDdNINEeHUNDREDeTHOUSANDdNINETY
eTHOUSANDdONEeHUNDREDeTHOUSANDdSEVENeHUNDREDeTHOUSANDdSEVENTYeTHOUSANDdSIXeHUNDREDeTHOUSANDdSIXTY
eTHOUSANDdTENeTHOUSANDdTHIRTYeTHOUSANDdTHREEeHUNDREDeTHOUSANDdTWENTYeTHOUSANDdTWOeHUNDREDeTHOUSAND
aOUNCE SIGNaOUTBOX TRAYaOUTLINED BLACK STARbGREEK CROSSbLATIN CROSSbWHITE STARaOVERHEATED FACE
aOVERLAPaOVERLAPPING BLACK SQUARESbWHITE AND BLACK SQUAREScSQUARESaOVERLINEaOWLaOXaOYSTERaPACKAGE
aPADaPADDING CHARACTERaPAGEbFACING UPbWITH CIRCLED TEXTcCURLaPAGERaPAGESaPAGODA
aPAHAWH HMONG CLAN SIGN FAJeHAMeHAWJeKHABeKOOeKWMeLAUJeLISeMUASePHABeTHOJeTSABeTSHEEJeTSWBeVAJeVWJ
eXYOOJeYAJeYEEGcCONSONANT AUdCAUdCHAUdHAUdHLAUdHNAUdLAUdMAUdNAUdNCHAUdNKAUdNLAUdNTHAUdNTSAUdPLHAU
dQHAUdRAUdVAUdXAUdYAUcDIGIT EIGHTdFIVEdFOURdNINEdONEdSEVENdSIXdTHREEdTWOdZEROcMARK CIM HOMeKES
eKHAVeSOeSUAMeTAUMeTUBcNUMBER HUNDRED MILLIONSdHUNDREDSdMILLIONSdTEN BILLIONSeTHOUSANDSdTENS
dTRILLIONScSIGN AVdCIM CHEEMeCUAM TSHOOJeHAIS LUS NTOG NTOGeNRES TOSePUB DAWBeTSOV ROGeTXWVfCHWV
dHLIdHNUBdIB YAMdLOSdMEEJ SUABeTSEEBdMUSdNQIGdNTUJdTAUdTHIRD-STAGE HLIdTXHEEJ CEEVdVOS FEEMeLUB
eNRUAeSEEVeTHIABeTHOMeTSHAB CEEBdXAUSdXIABdXYEEM FAIBeNTXIVeRHOeTOVdXYOOdZWJ THAJcVOWEL KAABdKAAV
dKABdKAIBdKAIVdKAUBdKAUVdKAVdKAWBdKAWVdKEBdKEEBdKEEVdKEVdKIABdKIAVdKIBdKIVdKOBdKOOBdKOOVdKOVdKUAB
dKUAVdKUBdKUVdKWBdKWVaPALLASaPALM BRANCHbDOWN HANDbTREEbUP HANDaPALMS UP TOGETHER
aPALMYRENE LEFT-POINTING FLEURONbLETTER ALEPHcAYINcBETHcDALETHcFINAL NUNcGIMELcHEcHETHcKAPHcLAMEDH
cMEMcNUNcPEcQOPHcRESHcSADHEcSAMEKHcSHINcTAWcTETHcWAWcYODHcZAYINbNUMBER FIVEcFOURcONEcTENcTHREE
cTWENTYcTWObRIGHT-POINTING FLEURONaPANCAKESaPANDA FACEaPAPERCLIPaPARACHUTEaPARAGRAPH SEPARATOR
aPARAGRAPHOSaPARAGRAPHUS MARKaPARALLEL TObWITH HORIZONTAL STROKEcTILDE OPERATOR
aPARENTHESIZED DIGIT EIGHTcFIVEcFOURcNINEcONEcSEVENcSIXcTHREEcTWObHANGUL CHIEUCHdAcCIEUCdAdUcHIEUH
dAcIEUNGdAcKHIEUKHdAcKIYEOKdAcMIEUMdAcNIEUNdAcPHIEUPHdAcPIEUPdAcRIEULdAcSIOSdAcTHIEUTHdAcTIKEUTdA
bIDEOGRAPH ALLIANCEcCALLcCONGRATULATIONcEARTHcEIGHTcENTERPRISEcFESTIVALcFINANCIALcFIREcFIVEcFOUR
cHAVEcLABORcMETALcMOONcNAMEcNINEcONEcREACHcREPRESENTcRESOURCEcRESTcSELFcSEVENcSIXcSOCIETYcSPECIAL
cSTOCKcSTUDYcSUNcSUPERVISEcTENcTHREEcTWOcWATERcWOODbKOREAN CHARACTER O HUdOJEON
bLATIN CAPITAL LETTER AeBeCeDeEeFeGeHeIeJeKeLeMeNeOePeQeReSeTeUeVeWeXeYeZcSMALL LETTER AeBeCeDeEeF
eGeHeIeJeKeLeMeNeOePeQeReSeTeUeVeWeXeYeZbNUMBER EIGHTEENcELEVENcFIFTEENcFOURTEENcNINETEEN
cSEVENTEENcSIXTEENcTENcTHIRTEENcTWELVEcTWENTYaPARROTaPART ALTERNATION MARKaPARTIAL DIFFERENTIAL
bLINE BACKWARDcDOWNcFORWARDcUPaPARTIALLY-RECYCLED PAPER SYMBOLaPARTNERSHIP SIGNaPARTY POPPER
aPASSED SYMBOLaPASSENGER SHIPaPASSIVE-PULL-DOWN-OUTPUT SYMBOLaPASSIVE-PULL-UP-OUTPUT SYMBOL
aPASSPORT CONTROLaPAU CIN HAU GLOTTAL STOPfFINALfVARIANTdLETTER AeBAeCAeCHAeDAeEeFAeFINAL KfLfMfN
fNGfPfTfWfYeGAeHAeIeIAeKAeKHAeLAeMAeNAeNGAeOePAePHAeRAeSAeTAeTHAeUeUAeVAeZAdLOW-FALLING TONEfFINAL
fLONGgFINALdMID-LEVEL TONEfFINALfLONG FINALdRISING TONEfFINALfLONGgFINALdSANDHI GLOTTAL STOPgFINAL
eTONEfFINALfLONGgFINALaPAW PRINTSaPDFaPDIaPEACE SYMBOLaPEACHaPEACOCKaPEANUTSaPEARaPEDESTRIAN
aPEN OVER STAMPED ENVELOPEaPENCILaPENGUINaPENSIVE FACEaPENTAGRAMaPEOPLE HUGGINGaPER MILLE SIGN
bSIGNbTEN THOUSAND SIGNaPERCENT SIGNaPERFORMING ARTSaPERMANENT PAPER SIGNaPERPENDICULARbWITH S
aPERSEVERING FACEaPERSON BOWING DEEPLYbCLIMBINGbDOING CARTWHEELbFROWNINGbIN LOTUS POSITION
cSTEAMY ROOMbRAISING BOTH HANDS IN CELEBRATIONbWITH BALLcBLOND HAIRcCROWNcFOLDED HANDScHEADSCARF
cPOUTING FACEaPERSONAL COMPUTERaPERSPECTIVEaPESETA SIGNaPESO SIGNaPETRI DISH
aPHAGS-PA DOUBLE HEAD MARKbLETTER AcALTERNATE YAcASPIRATED FAcBAcCAcCANDRABINDUcCHAcDAcDDAcDZAcE
cEEcFAcGAcGGAcHAcIcJAcKAcKHAcLAcMAcNAcNGAcNNAcNYAcOcPAcPHAcQAcRAcSAcSHAcSMALL AcTAcTHAcTSAcTSHA
cTTAcTTHAcUcVOICED HAcVOICELESS SHAcWAcXAcYAcZAcZHAbMARK DOUBLE SHADcSHADbSINGLE HEAD MARK
bSUBJOINED LETTER RAdWAdYAbSUPERFIXED LETTER RAaPHAISTOS DISC SIGN ARROWdBEEdBEEHIVEdBOOMERANGdBOW
dBULLS LEGdCAPTIVEdCARPENTRY PLANEdCATdCHILDdCLUBdCOLUMNdCOMBdCOMBINING OBLIQUE STROKEdDOLIUMdDOVE
dEAGLEdFLUTEdGAUNTLETdGRATERdHELMETdHIDEdHORNdLIDdLILYdMANACLESdMATTOCKdOX BACKdPAPYRUSdPEDESTRIAN
dPLANE TREEdPLUMED HEADdRAMdROSETTEdSAWdSHIELDdSHIPdSLINGdSMALL AXEdSTRAINERdTATTOOED HEADdTIARA
dTUNNYdVINEdWAVY BANDdWOMANaPHILIPPINE DOUBLE PUNCTUATIONbSINGLE PUNCTUATIONaPHOENICIAN LETTER AIN
cALFcBETcDELTcGAMLcHEcHETcKAFcLAMDcMEMcNUNcPEcQOFcROSHcSADEcSEMKcSHINcTAUcTETcWAUcYODcZAI
bNUMBER ONEdHUNDREDcTENcTHREEcTWENTYcTWObWORD SEPARATORaPHOLUSaPICKaPICKUP TRUCKaPIEaPIGbFACEbNOSE
aPILCROW SIGNaPILE OF POOaPILLaPINATAaPINCHED FINGERSaPINCHING HANDaPINE DECORATIONaPINEAPPLE
aPINWHEEL STARaPISCESaPISTOLaPITCHFORKbWITH TEE TOPaPLACARDaPLACE OF INTEREST SIGNcWORSHIP
aPLANCK CONSTANTcOVER TWO PIaPLAYGROUND SLIDEaPLAYING CARD ACE OF CLUBSeDIAMONDSeHEARTSeSPADES
cBACKcBLACK JOKERcEIGHT OF CLUBSeDIAMONDSeHEARTSeSPADEScFIVE OF CLUBSeDIAMONDSeHEARTSeSPADEScFOOL
cFOUR OF CLUBSeDIAMONDSeHEARTSeSPADEScJACK OF CLUBSeDIAMONDSeHEARTSeSPADEScKING OF CLUBSeDIAMONDS
eHEARTSeSPADEScKNIGHT OF CLUBSeDIAMONDSeHEARTSeSPADEScNINE OF CLUBSeDIAMONDSeHEARTSeSPADES
cQUEEN OF CLUBSeDIAMONDSeHEARTSeSPADEScRED JOKERcSEVEN OF CLUBSeDIAMONDSeHEARTSeSPADES
cSIX OF CLUBSeDIAMONDSeHEARTSeSPADEScTEN OF CLUBSeDIAMONDSeHEARTSeSPADEScTHREE OF CLUBSeDIAMONDS
eHEARTSeSPADEScTRUMP-1cTRUMP-10cTRUMP-11cTRUMP-12cTRUMP-13cTRUMP-14cTRUMP-15cTRUMP-16cTRUMP-17
cTRUMP-18cTRUMP-19cTRUMP-2cTRUMP-20cTRUMP-21cTRUMP-3cTRUMP-4cTRUMP-5cTRUMP-6cTRUMP-7cTRUMP-8
cTRUMP-9cTWO OF CLUBSeDIAMONDSeHEARTSeSPADEScWHITE JOKERaPLDaPLUaPLUNGERaPLUS SIGN
cABOVE EQUALS SIGNcIN LEFT HALF CIRCLEdRIGHT HALF CIRCLEdTRIANGLEcWITH BLACK TRIANGLE
dCIRCUMFLEX ACCENT ABOVEdDOT BELOWdSMALL CIRCLE ABOVEdSUBSCRIPT TWOdTILDE ABOVEeBELOW
aPLUS-MINUS SIGNaPLUTObFORM FIVEcFOURcTHREEcTWOaPMaPOCKET CALCULATORaPOLICE CAR
bCARS REVOLVING LIGHTbOFFICERaPOODLEaPOP DIRECTIONAL FORMATTINGcISOLATEaPOPCORNaPORTABLE STEREO
aPOSEIDONaPOSITION INDICATORaPOSTAL HORNbMARKcFACEaPOSTBOXaPOT OF FOODaPOTABLE WATER SYMBOLaPOTATO
aPOTTED PLANTaPOUCHaPOULTRY LEGaPOUND SIGNaPOURING LIQUIDaPOUTING CAT FACEbFACEaPOWER ON SYMBOL
bON-OFF SYMBOLbSLEEP SYMBOLbSYMBOLaPRAYER BEADSaPRECEDESbABOVE ALMOST EQUAL TOcEQUALS SIGN
cNOT ALMOST EQUAL TOdEQUAL TOcSINGLE-LINE EQUALS SIGNdNOT EQUAL TObBUT NOT EQUIVALENT TO
bOR EQUAL TOcEQUIVALENT TObUNDER RELATIONaPREGNANT MANbPERSONbWOMANaPRESCRIPTION TAKE
aPRESENTATION FORM FOR VERTICAL COLONeCOMMAeEM DASHeEN DASHeEXCLAMATION MARKeHORIZONTAL ELLIPSIS
eIDEOGRAPHIC COMMAfFULL STOPeLEFT ANGLE BRACKETfBLACK LENTICULAR BRACKETfCORNER BRACKET
fCURLY BRACKETfDOUBLE ANGLE BRACKETfPARENTHESISfSQUARE BRACKETfTORTOISE SHELL BRACKET
fWHITE CORNER BRACKETgLENTICULAR BRACKETeLOW LINEeQUESTION MARKeRIGHT ANGLE BRACKET
fBLACK LENTICULAR BRACKETfCORNER BRACKETfCURLY BRACKETfDOUBLE ANGLE BRACKETfPARENTHESIS
fSQUARE BRACKETfTORTOISE SHELL BRACKETfWHITE CORNER BRACKETgLENTICULAR BRACKEThBRAKCETeSEMICOLON
eTWO DOT LEADEReWAVY LOW LINEaPRETZELaPREVIOUS PAGEaPRIMEaPRINCEaPRINCESSaPRINT SCREEN SYMBOL
aPRINTERbICONaPRIVACY MESSAGEaPRIVATE USE ONEcTWObUSE-1bUSE-2aPROBING CANEaPROHIBITED SIGN
aPROJECTIVEaPROPERTY LINEaPROPORTIONaPROPORTIONAL TOaPROSERPINA
aPSALTER PAHLAVI FOUR DOTS WITH CROSSfDOTcLETTER ALEPHdBETHdDALETHdGIMELdHEdHETHdKAPHdLAMEDH
dMEM-QOPHdNUNdPEdSADHEdSAMEKHdSHINdTAWdWAW-AYIN-RESHdYODHdZAYINcNUMBER FOURdONEeHUNDREDdTENdTHREE
dTWENTYdTWOcSECTION MARKcTURNED SECTION MARKaPU1aPU2aPUBLIC ADDRESS LOUDSPEAKERaPUNCTUATION SPACE
aPUNCTUS ELEVATUS MARKaPURPLE HEARTaPURSEaPUSHPINaPUT LITTER IN ITS PLACE SYMBOL
aQUADRANT LOWER LEFTcRIGHTbUPPER LEFTdAND LOWER LEFT AND LOWER RIGHTfRIGHT
eUPPER RIGHT AND LOWER LEFTiRIGHTcRIGHTdAND LOWER LEFTgAND LOWER RIGHTaQUADRUPLE INTEGRAL OPERATOR
bPRIMEaQUARTER NOTEaQUATERNION INTEGRAL OPERATORaQUESTION EXCLAMATION MARKbMARK
aQUESTIONED EQUAL TOaQUINCUNXaQUOTATION MARKaRABBITbFACEaRACCOONaRACING CARbMOTORCYCLE
aRADICAL SYMBOL BOTTOMaRADIObBUTTONaRADIOACTIVE SIGNaRAILWAY CARbTRACKaRAINaRAINBOW
aRAISED BACK OF HANDbCOMMAbDOTbDOTTED INTERPOLATION MARKERbFISTbHANDcWITH FINGERS SPLAYED
dPART BETWEEN MIDDLE AND RING FINGERSbINTERPOLATION MARKERbMC SIGNbMD SIGNbMR SIGNbSQUAREaRAMaRAT
aRATIOaRAZORaRECEIPTaRECORD SEPARATORaRECREATIONAL VEHICLEaRECYCLED PAPER SYMBOL
aRECYCLING SYMBOL FOR GENERIC MATERIALSdTYPE-1 PLASTICSdTYPE-2 PLASTICSdTYPE-3 PLASTICS
dTYPE-4 PLASTICSdTYPE-5 PLASTICSdTYPE-6 PLASTICSdTYPE-7 PLASTICSaRED APPLEbGIFT ENVELOPE
aREFERENCE MARKaREGIONAL INDICATOR SYMBOL LETTER AeBeCeDeEeFeGeHeIeJeKeLeMeNeOePeQeReSeTeUeVeWeXeY
eZaREGISTERED SIGNaREJANG CONSONANT SIGN HdNdNGdRbLETTER AcBAcCAcDAcGAcHAcJAcKAcLAcMAcMBAcNAcNDA
cNGAcNGGAcNYAcNYJAcPAcRAcSAcTAcWAcYAbSECTION MARKbVIRAMAbVOWEL SIGN AIdAUdEdEAdEUdIdOdU
aRELIEVED FACEaREMINDER RIBBONaREPLACEMENT CHARACTERaRESPONSEaRESTRICTED LEFT ENTRY-1cENTRY-2
aRESTROOMaRETURN LEFTbRIGHTbSYMBOLaREVERSE CHECKER BOARDbINDEXbLIGHT FOUR POINTED PINWHEEL STAR
bLINE FEEDbSOLIDUScOPERATORcPRECEDING SUBSETcWITH HORIZONTAL STROKE
bTILDE OPERATOR ABOVE LEFTWARDS ARROWeRIGHTWARDS ARROWaREVERSED ANGLEcWITH UNDERBARbCOMMA
bDOUBLE PRIMEdQUOTATION MARKcSTROKE NOT SIGNbEMPTY SETbFORKED PARAGRAPHOS
bHAND WITH MIDDLE FINGER EXTENDEDbNOT SIGNbPILCROW SIGNbPRIMEbQUESTION MARK
bRAISED HAND WITH FINGERS SPLAYEDbRIGHT ANGLEbROTATED FLORAL HEART BULLETbSANS-SERIF CAPITAL L
bSEMICOLONbTHUMBS DOWN SIGNcUP SIGNbTILDEcEQUALSbTRIPLE PRIMEbVICTORY HANDaREVOLVING HEARTS
aRHINOCEROSaRIaRIAL SIGNaRIBBONbARROW DOWN LEFTdRIGHTcLEFT DOWNdUPcRIGHT DOWNdUPcUP LEFTdRIGHT
aRICE BALLbCRACKERaRIFLEaRIGHT AND LOWER ONE EIGHTH BLOCKcUPPER ONE EIGHTH BLOCKbANGER BUBBLE
bANGLEcBRACKETdWITH DOTcDOTTED SUBSTITUTION MARKERcSUBSTITUTION MARKERcVARIANT WITH SQUARE
cWITH ARCdDOWNWARDS ZIGZAG ARROWbARC GREATER-THAN BRACKETbARROW WITH CIRCLED PLUSdSMALL CIRCLE
bBLACK LENTICULAR BRACKETcTORTOISE SHELL BRACKETbCEILINGbCORNER BRACKETbCURLY BRACKETdLOWER HOOK
dMIDDLE PIECEdUPPER HOOKbDOTTED SUBSTITUTION BRACKETbDOUBLE ANGLE BRACKETcARROW WITH ROUNDED HEAD
cPARENTHESIScQUOTATION MARKcWIGGLY FENCEbFISH TAILbFIVE EIGHTHS BLOCKbFLOORbHALF BLACK CIRCLEdSTAR
cBLOCKcFOLDERcMEDIUM SHADEcRUNNING MANbHAND TELEPHONE RECEIVERbLOW PARAPHRASE BRACKET
bNORMAL FACTOR SEMIDIRECT PRODUCTbONE EIGHTH BLOCKcQUARTER BLOCKbOPEN SQUARED DOTbOUTER JOIN
bPARENTHESIScEXTENSIONcLOWER HOOKcUPPER HOOKbRAISED OMISSION BRACKETbS-SHAPED BAG DELIMITER
bSEMIDIRECT PRODUCTbSEVEN EIGHTHS BLOCKbSIDEWAYS U BRACKETbSINGLE QUOTATION MARKbSPEAKER
cWITH ONE SOUND WAVEdTHREE SOUND WAVESbSPEECH BUBBLEbSQUARE BRACKETdEXTENSIONdLOWER CORNER
dUPPER CORNERdWITH DOUBLE STROKEeQUILLeSTROKEeTICK IN BOTTOM CORNERgTOP CORNEReUNDERBAR
bSUBSTITUTION BRACKETbTACKbTHIRD WHITE RIGHT POINTING INDEXbTHOUGHT BUBBLEbTHREE EIGHTHS BLOCK
cQUARTERS BLOCKbTORTOISE SHELL BRACKETbTRANSPOSITION BRACKETbTRIANGLEcABOVE LEFT TRIANGLE
bTRIANGULAR ONE QUARTER BLOCKbVERTICAL BAR WITH QUILLcBOX LINEbWHITE CORNER BRACKETcCURLY BRACKET
cLENTICULAR BRACKETcPARENTHESIScSQUARE BRACKETcTORTOISE SHELL BRACKETbWIGGLY FENCE
aRIGHT-FACING ARMENIAN ETERNITY SIGNbFISTbSVASTI SIGNdWITH DOTSaRIGHT-HANDED INTERLACED PENTAGRAM
aRIGHT-POINTING ANGLE BRACKETbCURVED ANGLE BRACKETbDOUBLE ANGLE QUOTATION MARKbMAGNIFYING GLASS
aRIGHT-SHADED WHITE RIGHTWARDS ARROWaRIGHT-SIDE ARC CLOCKWISE ARROWaRIGHT-TO-LEFT EMBEDDING
bISOLATEbMARKbOVERRIDEaRIGHTHAND INTERIOR PRODUCTaRIGHTWARDS ARROWcABOVE ALMOST EQUAL TO
dREVERSE ALMOST EQUAL TOeTILDE OPERATORdSHORT LEFTWARDS ARROWdTILDE OPERATOR
cAND UPPER AND LOWER ONE EIGHTH BLOCKcFROM BAReTO BLACK DIAMONDcOVER LEFTWARDS ARROW
cTHROUGH GREATER-THANdSUPERSETdXcTO BARdBLACK DIAMONDcWITH CORNER DOWNWARDSdDOTTED STEM
dDOUBLE VERTICAL STROKEdEQUILATERAL ARROWHEADdHOOKdLARGE TRIANGLE ARROWHEADdLOOP
dMEDIUM TRIANGLE ARROWHEADdNOTCHED TAILdPLUS BELOWdSMALL EQUILATERAL ARROWHEADeTRIANGLE ARROWHEAD
dSTROKEdTAILeWITH DOUBLE VERTICAL STROKEfVERTICAL STROKEdTIP DOWNWARDSeUPWARDSdVERTICAL STROKE
bARROW-TAILbBACK-TILTED SHADOWED WHITE ARROWbBLACK ARROWcCIRCLED WHITE ARROW
bBOTTOM SHADED WHITE ARROWbCOMPRESSED ARROWbDASHED ARROWbDOUBLE ARROWdFROM BARdWITH STROKE
eVERTICAL STROKEcARROW-TAILcDASH ARROWbFINGER-POST ARROWbFRONT-TILTED SHADOWED WHITE ARROWbHAND
bHARPOON OVER LEFTWARDS HARPOONcWITH BARB DOWN ABOVE LEFTWARDS HARPOON WITH BARB DOWN
fBELOW LONG DASHfFROM BARfTO BAReDOWNWARDSeUP ABOVE LEFTWARDS HARPOON WITH BARB UPgLONG DASH
gRIGHTWARDS HARPOON WITH BARB DOWNfFROM BARfTO BAReUPWARDSbHEAVY ARROWcCOMPRESSED ARROW
bLEFT-SHADED WHITE ARROWbOPEN-HEADED ARROWbPAIRED ARROWSbQUADRUPLE ARROWbRIGHT-SHADED WHITE ARROW
bROCKETbSANS-SERIF ARROWbSQUARED ARROWbSQUIGGLE ARROWbTOP SHADED WHITE ARROWbTRIANGLE ARROWHEAD
bTRIANGLE-HEADED ARROWdOVER LEFTWARDS TRIANGLE-HEADED ARROWdTO BARdWITH BOLD SHAFT
eDOUBLE HORIZONTAL STROKEfVERTICAL STROKEeHEAVY SHAFTeLONG TIP DOWNWARDSgUPWARDSeMEDIUM SHAFT
eNARROW SHAFTeVERY HEAVY SHAFTcDASHED ARROWcPAIRED ARROWSbTRIPLE ARROWcDASH ARROWbTWO HEADED ARROW
bTWO-HEADED ARROW FROM BARdWITH DOUBLE VERTICAL STROKEeTAILfWITH DOUBLE VERTICAL STROKE
gVERTICAL STROKEeTRIANGLE ARROWHEADSeVERTICAL STROKEcTRIPLE DASH ARROWbWAVE ARROWbWHITE ARROW
dFROM WALLdWITHIN TRIANGLE ARROWHEADaRINGbABOVEbBUOYbEQUAL TObIN EQUAL TObOPERATORbPOINT
aRINGED PLANETaRINGING BELLaRISING DIAGONAL CROSSING FALLING DIAGONALdSOUTH EAST ARROWaRLEaRLIaRLM
aRLOaROASTED SWEET POTATOaROBOT FACEaROCKaROCKETaROLL OF PAPERaROLLED-UP NEWSPAPERaROLLER COASTER
bSKATEaROLLING ON THE FLOOR LAUGHINGaROMAN AS SIGNbCENTURIAL SIGNbDENARIUS SIGN
bDIMIDIA SEXTULA SIGNbDUPONDIUS SIGNbNUMERAL EIGHTcELEVENcFIFTYdEARLY FORMdTHOUSANDcFIVEdHUNDRED
dTHOUSANDcFOURcNINEcONEdHUNDREDeTHOUSANDdTHOUSANDeC DcREVERSED ONE HUNDREDcSEVENcSIXdLATE FORMcTEN
dTHOUSANDcTHREEcTWELVEcTWObQUINARIUS SIGNbSEMUNCIA SIGNbSESTERTIUS SIGNbSEXTANS SIGNbSEXTULA SIGN
bSILIQUA SIGNbUNCIA SIGNaROOSTERaROSEaROSETTEaROTATED CAPITAL QbFLORAL HEART BULLET
bHEAVY BLACK HEART BULLETbLIGHT FOUR POINTED BLACK CUSPbWHITE FOUR POINTED CUSPaROUND PUSHPIN
bTARGETaROUNDED SYMBOL FOR CAIdFUdLUdSHOUdSHUANGXIdXIaROWBOATaRSaRUBLE SIGNaRUGBY FOOTBALL
aRULE-DELAYEDaRUMI DIGIT EIGHTcFIVEcFOURcNINEcONEcSEVENcSIXcTHREEcTWObFRACTION ONE HALFdQUARTER
dTHIRDcTWO THIRDSbNUMBER EIGHT HUNDREDcEIGHTYcFIFTYcFIVE HUNDREDcFORTYcFOUR HUNDREDcNINE HUNDRED
cNINETYcONE HUNDREDcSEVEN HUNDREDcSEVENTYcSIX HUNDREDcSIXTYcTENcTHIRTYcTHREE HUNDREDcTWENTY
cTWO HUNDREDaRUNIC ARLAUG SYMBOLbBELGTHOR SYMBOLbCROSS PUNCTUATIONbLETTER AC AcAESCcALGIZ EOLHX
cANSUZ AcBERKANAN BEORC BJARKAN BcCcCALCcCEALCcCENcCWEORTHcDcDAGAZ DAEG DcDOTTED-LcDOTTED-N
cDOTTED-PcEcEARcEHWAZ EH EcENGcETHcFEHU FEOH FE FcFRANKS CASKET ACeAESCeEHeISeOScGcGARcGEBO GYFU G
cGERcHAEGL HcHAGLAZ HcICELANDIC-YRcINGcINGWAZcIORcISAZ IS ISS IcIWAZ EOHcJERAN JcKcKAUN KcKAUNA
cLAUKAZ LAGU LOGR LcLONG-BRANCH-AR AEcLONG-BRANCH-HAGALL HcLONG-BRANCH-MADR McLONG-BRANCH-OSS O
cLONG-BRANCH-YRcMANNAZ MAN McNAUDIZ NYD NAUD NcOcOEcONcOOcOPEN-PcOS OcOTHALAN ETHEL O
cPERTHO PEORTH PcQcRAIDO RAD REID RcSHcSHORT-TWIG-AR AcSHORT-TWIG-BJARKAN BcSHORT-TWIG-HAGALL H
cSHORT-TWIG-MADR McSHORT-TWIG-NAUD NcSHORT-TWIG-OSS OcSHORT-TWIG-SOL ScSHORT-TWIG-TYR T
cSHORT-TWIG-YRcSIGEL LONG-BRANCH-SOL ScSOWILO ScSTANcTHURISAZ THURS THORNcTIWAZ TIR TYR T
cURUZ UR UcVcWcWUNJO WYNN WcXcYcYRcZbMULTIPLE PUNCTUATIONbSINGLE PUNCTUATIONbTVIMADUR SYMBOL
aRUNNERaRUNNING SHIRT WITH SASHaRUPEE SIGNaRUSSIAN ASTROLOGICAL SYMBOL BINOVILEdNOVILEdQUINTILE
dSENTAGONdTREDECILEdVIGINTILEaS IN TRIANGLEaSAFETY PINbVESTaSAGITTARIUSaSAILBOAT
aSAKE BOTTLE AND CUPaSALT SHAKERaSALTIREaSALUTING FACEaSAMARITAN ABBREVIATION MARKbLETTER ALAFcBAA
cBITcDALATcFIcGAMANcINcITcIYcKAAFcLABATcMIMcNUNcQUFcRISHcSHANcSINGAATcTAAFcTITcTSAADIYcYUTcZEN
bMARK DAGESHcEPENTHETIC YUTcINcIN-ALAFcNEQUDAAcOCCLUSIONbMODIFIER LETTER EPENTHETIC YUTdIdSHORT A
bPUNCTUATION AFSAAQcANGEDcANNAAUcARKAANUcATMAAUcBAUcMELODIC QITSAcNEQUDAAcQITSAcSHIYYAALAA
cSOF MASHFAATcTURUcZAEFcZIQAAbVOWEL SIGN AdAAdEdIdLONG AeAAeEeIeUdOdOVERLONG AeAAdSHORT AdSUKUNdU
aSANDWICHaSANS-SERIF HEAVY DOUBLE COMMA QUOTATION MARK ORNAMENT
dTURNED COMMA QUOTATION MARK ORNAMENTcLOW DOUBLE COMMA QUOTATION MARK ORNAMENT
bINTERROBANG ORNAMENTaSARIaSATELLITEbANTENNAaSATURNaSAURASHTRA CONSONANT SIGN HAARUbDANDA
bDIGIT EIGHTcFIVEcFOURcNINEcONEcSEVENcSIXcTHREEcTWOcZERObDOUBLE DANDAbLETTER AcAAcAIcAUcBAcBHAcCA
cCHAcDAcDDAcDDHAcDHAcEcEEcGAcGHAcHAcIcIIcJAcJHAcKAcKHAcLAcLLAcMAcNAcNGAcNNAcNYAcOcOOcPAcPHAcRAcSA
cSHAcSSAcTAcTHAcTTAcTTHAcUcUUcVAcVOCALIC LdLLdRdRRcYAbSIGN ANUSVARAcCANDRABINDUcVIRAMAcVISARGA
bVOWEL SIGN AAdAIdAUdEdEEdIdIIdOdOOdUdUUdVOCALIC LeLLeReRRaSAUROPODaSAXOPHONEaSCALESaSCARFaSCHOOL
bSATCHELaSCIaSCOOTERaSCORPIONaSCORPIUSaSCREENaSCREWDRIVERaSCRIPT CAPITAL BcEcFcHcIcLcMcPcR
bLIGATURE ET ORNAMENTbSMALL EcGcLcOaSCROLLaSCRUPLEaSEALaSEATaSECOND PLACE MEDALaSECTION SIGN
aSECTORaSEDNAaSEE-NO-EVIL MONKEYaSEEDLINGaSEGMENTaSEGMENTED DIGIT EIGHTcFIVEcFOURcNINEcONEcSEVEN
cSIXcTHREEcTWOcZEROaSELFIEaSEMICOLONaSEMIDIRECT PRODUCT WITH BOTTOM CLOSEDaSEMISEXTILE
aSEPARATED SYMBOLaSERIOUS FACE WITH SYMBOLS COVERING MOUTHaSERVICE MARKaSESAME DOTaSESQUIQUADRATE
aSET MINUSbTRANSMIT STATEaSEWING NEEDLEaSEXTILEaSGCaSHADOWED WHITE CIRCLEcLATIN CROSScSTAR
aSHALLOW PAN OF FOODaSHAMROCKaSHARADA ABBREVIATION SIGNbCONTINUATION SIGNbDANDAbDIGIT EIGHTcFIVE
cFOURcNINEcONEcSEVENcSIXcTHREEcTWOcZERObDOUBLE DANDAbEKAMbEXTRA SHORT VOWEL MARKbHEADSTROKE
bLETTER AcAAcAIcAUcBAcBHAcCAcCHAcDAcDDAcDDHAcDHAcEcGAcGHAcHAcIcIIcJAcJHAcKAcKHAcLAcLLAcMAcNAcNGA
cNNAcNYAcOcPAcPHAcRAcSAcSHAcSSAcTAcTHAcTTAcTTHAcUcUUcVAcVOCALIC LdLLdRdRRcYAbOMbSANDHI MARK
bSECTION MARK-1cMARK-2bSEPARATORbSIGN ANUSVARAcAVAGRAHAcCANDRABINDUcINVERTED CANDRABINDU
cJIHVAMULIYAcNUKTAcSIDDHAMcUPADHMANIYAcVIRAMAcVISARGAbSUTRA MARKbVOWEL MODIFIER MARKcSIGN AAdAIdAU
dEdIdIIdOdPRISHTHAMATRA EdUdUUdVOCALIC LeLLeReRRaSHARKaSHAVED ICEaSHAVIAN LETTER ADOcAGEcAHcAIR
cAREcARRAYcASHcAWEcBIBcCHURCHcDEADcEARcEATcEGGcERRcFEEcGAGcHA-HAcHUNGcIANcICEcIFcJUDGEcKICKcLOLL
cMEASUREcMIMEcNUNcOAKcOILcONcOOZEcORcOUTcPEEPcROARcSOcSUREcTHEYcTHIGHcTOTcUPcVOWcWOEcWOOLcYEAcYEW
cZOOaSHEEPaSHIELDaSHIFT INbOUTaSHINTO SHRINEaSHIPaSHOCKED FACE WITH EXPLODING HEADaSHOOTING STAR
aSHOPPING BAGSbTROLLEYaSHORT BACKSLANTED SOUTH ARROWbBENT ARROW POINTING DOWNWARDS THEN NORTH EAST
bDOWN TACKdWITH OVERBARbLEFT TACKbRIGHTWARDS ARROW ABOVE LEFTWARDS ARROWbSLANTED NORTH ARROW
bUP TACKdABOVE SHORT DOWN TACKdWITH UNDERBARaSHORTCAKEaSHORTHAND FORMAT CONTINUING OVERLAP
cDOWN STEPcLETTER OVERLAPcUP STEPaSHORTSaSHOULDERED OPEN BOXaSHOWERaSHRIMPaSHRUGaSHUFFLE PRODUCT
aSHYaSIaSIDDHAM DANDAbDOUBLE DANDAbEND OF TEXT MARKbLETTER AcAAcAIcALTERNATE UcAUcBAcBHAcCAcCHAcDA
cDDAcDDHAcDHAcEcGAcGHAcHAcIcIIcJAcJHAcKAcKHAcLAcMAcNAcNGAcNNAcNYAcOcPAcPHAcRAcSAcSHAcSSAcTAcTHA
cTHREE-CIRCLE ALTERNATE IcTTAcTTHAcTWO-CIRCLE ALTERNATE IeIIcUcUUcVAcVOCALIC LdLLdRdRRcYA
bREPETITION MARK-1cMARK-2cMARK-3bSECTION MARK DOUBLE RINGfWITH RAYS
dWITH CIRCLES AND FOUR ENCLOSURESgRAYSgTWO ENCLOSURESeDOUBLE CRESCENTSeQUADRUPLE CRESCENTS
eRAYS AND DOTTED CRESCENTShDOUBLE CRESCENTShTRIPLE CRESCENTSeSEPTUPLE CRESCENTS
eTRIDENT AND DOTTED CRESCENTSgU-SHAPED ORNAMENTSeTRIPLE CRESCENTSbSEPARATOR BARcDOTbSIGN ANUSVARA
cCANDRABINDUcNUKTAcSIDDHAMcVIRAMAcVISARGAbVOWEL SIGN AAdAIdALTERNATE UeUUdAUdEdIdIIdOdUdUU
dVOCALIC ReRRaSIDEWAYS BLACK DOWN POINTING INDEXcLEFT POINTING INDEXcRIGHT POINTING INDEX
cUP POINTING INDEXbWHITE DOWN POINTING INDEXcLEFT POINTING INDEXcRIGHT POINTING INDEX
cUP POINTING INDEXaSIGN OF THE HORNSaSIGNWRITING AIR BLOW SMALL ROTATIONScBLOWING OUT
cSUCK SMALL ROTATIONScSUCKING INbBREATH EXHALEcINHALEbBRUSH BETWEENcMULTIPLEcSINGLEbCHEEKS NEUTRAL
cPUFFEDcSUCKEDbCOLONbCOMMAbDREAMY EYEBROWS DOWN NEUTRALdNEUTRAL DOWNeUPdUP NEUTRAL
bDYNAMIC ARROWHEAD LARGEdSMALLcEVERY OTHER TIMEcFASTcGRADUALcRELAXEDcSIMULTANEOUSdALTERNATINGcSLOW
cTENSEbEARSbEXCITEMENTbEYE BLINK MULTIPLEdSINGLEcWINKbEYEBROWS STRAIGHT DOWNdNEUTRALdUP
bEYEGAZE-FLOORPLANE CURVEDcSTRAIGHTdALTERNATINGdDOUBLEbEYEGAZE-WALLPLANE CIRCLINGcCURVEDcSTRAIGHT
dALTERNATINGdDOUBLEbEYELASHES DOWNcFLUTTERINGcUPbEYES CLOSEDcHALF CLOSEDdOPENcOPENcSQUEEZED
cWIDE OPENcWIDENING MOVEMENTbFACE DIRECTION POSITION NOSE FORWARD TILTINGfUP OR DOWNiTILTING
bFILL MODIFIER-2cMODIFIER-3cMODIFIER-4cMODIFIER-5cMODIFIER-6bFINGERbFLICK LARGE MULTIPLEdSINGLE
cSEQUENTIALcSMALL MULTIPLEdSINGLEbFLOORPLANE SHOULDER HIP MOVEbFOREHEAD CONTACTcNEUTRALcWRINKLED
bFULL STOPbGRASP BETWEENcMULTIPLEcSINGLEbHAIRbHAND-ANGLEcINDEXdMIDDLE LITTLEeRINGdRING LITTLEfOUT
dTHUMBeINeOUTcLITTLE INDEXeTHUMB INDEX THUMBhOUTdUPcMIDDLE RING LITTLEfINfOUT
cRING DOWN MIDDLE THUMB INDEX CROSSdLITTLEbHAND-CIRCLEcINDEXdBENTdHINGEdMIDDLEeCROSS LITTLE
eCROSSEDeLITTLEeRINGeTHUMBdRING LITTLEcLITTLE INDEXdUPcMIDDLE RING LITTLEfBENTdUPcRING LITTLE
bHAND-CLAWcFOUR FINGERS CONJOINEDcINDEX THUMB CURVE THUMB INSIDEcMIDDLE RING LITTLE CONJOINEDgSIDE
cNO THUMBcTHUMB FORWARDdSIDEbHAND-CUPcFIVE FINGERS SPREADfOPENcINDEXdRING LITTLEdTHUMBeOPEN
cMIDDLE RING LITTLEcNO THUMBcOPENdNO THUMBdTHUMB FORWARDeSIDEcTHUMB FORWARDdSIDEbHAND-CURLICUE
cINDEX RING LITTLE ONcMIDDLE RING LITTLE ONcOPENbHAND-FISTcFOUR FINGERS CONJOINED BENTcHEELcINDEX
dBENTeOVER MIDDLEdCUPPEDdHINGEDeLOWeMIDDLE UPgTHUMB SIDEdMIDDLEeBENTfTHUMB STRAIGHTeCONJOINED
fCUPPEDgTHUMB FORWARDfHINGEDgTHUMB SIDEfINDEX BENTfMIDDLE BENTfTHUMB FORWARDgSIDEhBENThCONJOINED
eCROSS LITTLEeCROSSEDfTHUMB SIDEeHINGEDfSPREAD THUMB SIDEeLITTLEeRAISED KNUCKLESeRINGfBENT
fCONJOINEDeSTRAIGHT THUMB BENTeTHUMBfANGLEDgOUTfBENTfCIRCLEDfCONJOINED HINGEDfCUPPEDfHINGEDfHOOKED
eUP SPREAD THUMB FORWARDdRAISED KNUCKLEdRING LITTLEdTHUMB ANGLED IN MIDDLE UPfOUT MIDDLE UPeCIRCLE
eCIRCLED MIDDLE UPeCUPPED MIDDLE UPeCURLICUEeCURVE THUMB INSIDEgUNDEReFORWARD INDEX BENTgSTRAIGHT
eHOOKeHOOKED MIDDLE HINGEDgUPeSIDEfBOTH BENTfINDEX BENTgHINGEfTHUMB BENTgCONJOINEDgDIAGONAL
dUP MIDDLE HINGEDgTHUMB CONJOINEDhSIDEcLITTLE BENTdDOWNeOTHERS CIRCLEDeRIPPLE CURVEDfSTRAIGHT
dINDEXeTHUMBdRAISED KNUCKLEdTHUMBdTOUCHES THUMBdUPcMIDDLE BENT OVER INDEXdDOWNdLITTLE
dRAISED KNUCKLEdRING LITTLEdTHUMB ANGLED INDEX UPfOUT INDEX CROSSEDhUPeCIRCLED INDEX HINGEDgUP
eCUPPED INDEX UPeHOOKED INDEX UPeLITTLEdUPeTHUMB SIDEcRING DOWNdINDEXdLITTLEdMIDDLEeCONJOINED
eRAISED KNUCKLESdRAISED KNUCKLEdTHUMBdUPcTHUMBdBETWEEN INDEX MIDDLEgSTRAIGHTeMIDDLE RING
eRING LITTLEdFORWARDdHEELdOVER FOUR RAISED KNUCKLESeTWO FINGERSdSIDE BENTeCONJOINEDeDIAGONAL
dUNDER FOUR FINGERSeINDEX BENTeLITTLE UPeTHREE FINGERSeTWO FINGERSbHAND-FLATcBETWEEN PALM FACINGS
cFIVE FINGERS SPREADfBENTfFOUR BENTfHINGEDgNO THUMBgTHUMB SIDEfTHUMB FORWARDcFOUR FINGERSeBENT
eCONJOINEDfSPLITeHINGEDcHEELdFIVE FINGERS SPREADgBENTgFOUR BENTdTHUMB SIDEcSPLIT CENTREeTHUMB SIDE
gBENTdINDEX THUMB SIDEdLITTLEcTHUMB BENTdFORWARDdSIDEbHAND-HINGEcFIVE FINGERS SPREAD OPEN
cFOUR FINGERS CONJOINEDcINDEXdHINGEDdMIDDLE LITTLEeRINGfCONJOINEDdRING LITTLEdTHUMBeLARGEeOPEN
eSIDEeSMALLcLITTLEdINDEXeTHUMBdTHUMBcMIDDLEdRING LITTLEcNO THUMBcOPENdNO THUMBdTHUMB FORWARDeSIDE
cRINGdDOWN INDEX THUMB HOOK MIDDLEcSMALLcTHUMB BETWEEN MIDDLE RINGdSIDEeTOUCHING INDEXbHAND-HOOK
cCURLICUEcINDEX RING LITTLE INfOUTfUNDERcMIDDLE RING LITTLE CONJOINEDgINgOUTdTHUMBcRING THUMB
bHAND-OVALcFIVE FINGERS SPREADcINDEXcLITTLE UPcNO THUMBcRING LITTLEcTHUMB FORWARDdSIDEbHEAD
cMOVEMENT CIRCLEcMOVEMENT-FLOORPLANE CURVEdSTRAIGHTcMOVEMENT-WALLPLANE CURVEdSTRAIGHTdTILTcRIM
bLIMB COMBINATIONcLENGTH-1cLENGTH-2cLENGTH-3cLENGTH-4cLENGTH-5cLENGTH-6cLENGTH-7
bLIP LOWER OVER UPPERcUPPER OVER LOWERbLIPS PRESSED TOGETHERbLOCATION DEPTHcHEAD NECKcHEIGHT
cLIMBS DIGITScTORSOcWIDTHbLOCATION-FLOORPLANE SPACEbLOCATION-WALLPLANE SPACEbMOUTH CLOSED CONTACT
dFORWARDdNEUTRALcCORNERScFROWNdOPENdWRINKLEDcKISSdFORWARDdWRINKLEDcOPEN CIRCLEdFORWARDdOVAL
eWRINKLEDeYAWNdRECTANGLEeWRINKLEDeYAWNdWRINKLEDcSMILEdOPENdWRINKLEDcTENSEdFORWARDdSUCKED
cWRINKLES DOUBLEdSINGLEbMOVEMENT-DIAGONAL AWAY LARGEdLARGESTdMEDIUMdSMALLcBETWEEN AWAY LARGE
eLARGESTeMEDIUMeSMALLdTOWARDS LARGEeLARGESTeMEDIUMeSMALLcTOWARDS LARGEdLARGESTdMEDIUMdSMALL
bMOVEMENT-FLOORPLANE ARM CIRCLE HITTING WALL LARGE DOUBLEhSINGLEgMEDIUM DOUBLEhSINGLEgSMALL DOUBLE
hSINGLEcBENDcBOX LARGEdMEDIUMdSMALLcCHECKcCORNER LARGEdMEDIUMdSMALLcCROSScCURVE COMBINED
dHITTING CEILING LARGEfSMALLeFLOOR LARGEfSMALLdLARGEdLARGESTdMEDIUMdSMALLcDOUBLE ALTERNATING
eWRIST FLEXdSTRAIGHTdWRIST FLEXcFINGER CIRCLES HITTING WALL DOUBLEgSINGLEdCONTACT
cHUMP HITTING CEILING LARGE DOUBLEgTRIPLEfSMALL DOUBLEgTRIPLEeFLOOR LARGE DOUBLEfSMALL DOUBLE
fTRIPLE LARGE TRIPLEgSMALL TRIPLEdSMALLcJAWcLOOP HITTING CEILING LARGE DOUBLEgSINGLEfSMALL DOUBLE
gSINGLEeFLOOR LARGE DOUBLEgSINGLEfSMALL DOUBLEgSINGLEdSMALLcPEAKS LARGEdMEDIUMdSMALL
cSHAKING PARALLELcSINGLE STRAIGHT LARGEeLARGESTeMEDIUMeSMALLdWRIST FLEX
cTRIPLE ALTERNATING MOVEMENTeWRIST FLEXdSTRAIGHT MOVEMENTdWRIST FLEXcWAVE HITTING CEILING LARGE
fSMALLeFLOOR LARGEfSMALLdLARGEdSMALLdSNAKEcWRIST CIRCLE HITTING WALL DOUBLEgSINGLEcZIGZAG LARGE
dMEDIUMdSMALLbMOVEMENT-HINGE DOWN SEQUENTIALcSIDE TO SIDE SCISSORScUP DOWN ALTERNATING LARGEfSMALL
eLARGEeSMALLdSEQUENTIALbMOVEMENT-WALLPLANE ARM CIRCLE MEDIUM DOUBLEfSINGLEeSMALL DOUBLEfSINGLE
cBEND LARGEdMEDIUMdSMALLcBOX LARGEdMEDIUMdSMALLcCHECK LARGEdMEDIUMdSMALLcCORNER LARGEdMEDIUM
dROTATIONdSMALLcCROSScCURVE HALF-CIRCLE LARGEeLARGESTeMEDIUMeSMALLdHITTING CHESTeFRONT WALL
dQUARTER LARGEeLARGESTeMEDIUMeSMALLdTHEN STRAIGHTdTHREE-QUARTER CIRCLE MEDIUMfSMALL
cCURVED CROSS MEDIUMeSMALLcDOUBLE ALTERNATINGeWRIST FLEXdSTRAIGHTdWRIST FLEXcFINGER CIRCLES DOUBLE
eSINGLEdCONTACTcHUMP HITTING CHESTeFRONT WALLdLARGEdMEDIUMdSMALLcJAWcLOOP HITTING CHESTeFRONT WALL
dLARGEdMEDIUMdSMALLeDOUBLEcPEAKS LARGEdMEDIUMdSMALLcSHAKINGcSINGLE STRAIGHT LARGEeLARGESTeMEDIUM
eSMALLdWRIST FLEXcTRIPLE ALTERNATINGeWRIST FLEXdSTRAIGHT MOVEMENTdWRIST FLEX
cWAVE CURVE DOUBLE LARGEfMEDIUMfSMALLeTRIPLE LARGEfMEDIUMfSMALLdDIAGONAL PATH LARGEfMEDIUMfSMALL
dHITTING CHESTeFRONT WALLcWRIST CIRCLE FRONT DOUBLEfSINGLEcZIGZAG LARGEdMEDIUMdSMALLbNECK
bNOSE CONTACTcNEUTRALcWIGGLEScWRINKLESbPARENTHESISbROTATION MODIFIER-10cMODIFIER-11cMODIFIER-12
cMODIFIER-13cMODIFIER-14cMODIFIER-15cMODIFIER-16cMODIFIER-2cMODIFIER-3cMODIFIER-4cMODIFIER-5
cMODIFIER-6cMODIFIER-7cMODIFIER-8cMODIFIER-9bROTATION-FLOORPLANE ALTERNATINGdHITTING CEILINGeFLOOR
cDOUBLEdHITTING CEILINGeFLOORcSINGLEdHITTING CEILINGeFLOORbROTATION-WALLPLANE ALTERNATE
cALTERNATING HITTING CHESTeFRONT WALLcDOUBLEdHITTING CHESTeFRONT WALLcSINGLEdHITTING CHEST
eFRONT WALLbRUB BETWEENcMULTIPLEcSINGLEbSEMICOLONbSHOULDER HIP POSITIONSdSPINEcTILTING FROM WAIST
bSQUEEZE FLICK ALTERNATINGcLARGE MULTIPLEdSINGLEcSEQUENTIALcSMALL MULTIPLEdSINGLEbSTRIKE BETWEEN
cMULTIPLEcSINGLEbSURFACE BETWEENcSYMBOLSbTEETHcBITE LIPScMOVEMENTcON LIPSeMOVEMENTdTONGUEeMOVEMENT
bTENSE CHEEKS HIGHdLOWdMIDDLEbTONGUE CENTRE INSIDE MOUTHdSTICKING OUTcINSIDE MOUTH RELAXED
cLICKING LIPScMOVES AGAINST CHEEKcSTICKING OUT FARcTIP BETWEEN LIPSdTOUCHING INSIDE MOUTH
bTORSO-FLOORPLANE TWISTINGbTORSO-WALLPLANE CURVED BENDcSTRAIGHT STRETCHbTOUCH BETWEENcMULTIPLE
cSINGLEbTRAVEL-FLOORPLANE ROTATION-FLOORPLANE ALTERNATINGdDOUBLEdSINGLE
cROTATION-WALLPLANE ALTERNATINGdDOUBLEdSINGLEcSHAKINGbTRAVEL-WALLPLANE ARM SPIRAL DOUBLEeSINGLE
eTRIPLEcROTATION-FLOORPLANE ALTERNATINGdDOUBLEdSINGLEcROTATION-WALLPLANE ALTERNATINGdDOUBLEdSINGLE
cSHAKINGbUPPER BODY TILTING FROM HIP JOINTSbWALLPLANE SHOULDER HIP MOVEaSILHOUETTE OF JAPAN
aSIMILAR ABOVE GREATER-THAN ABOVE EQUALS SIGNcLESS-THAN ABOVE EQUALS SIGNbMINUS SIMILAR
bOR GREATER-THANcLESS-THANaSINE WAVEaSINGLE CHARACTER INTRODUCERbGRAPHIC CHARACTER INTRODUCER
bHIGH-REVERSED-9 QUOTATION MARKbLEFT-POINTING ANGLE QUOTATION MARKbLOW-9 QUOTATION MARK
bRIGHT-POINTING ANGLE QUOTATION MARKbSHIFT THREEcTWOaSINGLE-SHIFT-2aSINGLE-SHIFT-3
aSINHALA ARCHAIC DIGIT EIGHTdFIVEdFOURdNINEdONEdSEVENdSIXdTHREEdTWOcNUMBER EIGHTYdFIFTYdFORTY
dNINETYdONE HUNDREDeTHOUSANDdSEVENTYdSIXTYdTENdTHIRTYdTWENTYbLETTER AAYANNAcAEEYANNAcAEYANNA
cAIYANNAcALPAPRAANA BAYANNAdCAYANNAdDAYANNAdDDAYANNAdGAYANNAdJAYANNAdKAYANNAdPAYANNAdTAYANNA
dTTAYANNAcAMBA BAYANNAcAUYANNAcAYANNAcDANTAJA LAYANNAdNAYANNAdSAYANNAcEEYANNAcEYANNAcFAYANNA
cHAYANNAcIIYANNAcILUUYANNAcILUYANNAcIRUUYANNAcIRUYANNAcIYANNAcKANTAJA NAASIKYAYA
cMAHAAPRAANA BAYANNAdCAYANNAdDAYANNAdDDAYANNAdGAYANNAdJAYANNAdKAYANNAdPAYANNAdTAYANNAdTTAYANNA
cMAYANNAcMUURDHAJA LAYANNAdNAYANNAdSAYANNAcOOYANNAcOYANNAcRAYANNAcSANYAKA DAYANNAdDDAYANNAdGAYANNA
dJAYANNAcTAALUJA NAASIKYAYAdSANYOOGA NAAKSIKYAYAdSAYANNAcUUYANNAcUYANNAcVAYANNAcYAYANNA
bLITH DIGIT EIGHTdFIVEdFOURdNINEdONEdSEVENdSIXdTHREEdTWOdZERObPUNCTUATION KUNDDALIYA
bSIGN AL-LAKUNAcANUSVARAYAcCANDRABINDUcVISARGAYAbVOWEL SIGN AELA-PILLAdDIGA AEDA-PILLA
eGAETTA-PILLAeGAYANUKITTAeIS-PILLAeKOMBUVAePAA-PILLAdGAETTA-PILLAdGAYANUKITTAdKETTI AEDA-PILLA
eIS-PILLAePAA-PILLAdKOMBU DEKAdKOMBUVAeHAA AELA-PILLAfDIGA AELA-PILLAfGAYANUKITTA
aSIX PETALLED BLACK AND WHITE FLORETTEbPOINTED BLACK STARcPINWHEEL STARcSTAR WITH MIDDLE DOT
aSIX-PER-EM SPACEaSIXTEEN POINTED ASTERISKaSKATEBOARDaSKI AND SKI BOOTaSKIERaSKULLbAND CROSSBONES
aSKUNKaSLANTED EQUAL TO OR GREATER-THANfWITH DOT INSIDEeLESS-THANfWITH DOT INSIDE
bNORTH ARROW WITH HOOKED HEADeHORIZONTAL TAILaSLAVONIC ASTERISKaSLEDaSLEEPING ACCOMMODATIONbFACE
bSYMBOLaSLEEPY FACEaSLEUTH OR SPYaSLICE OF PIZZAaSLIGHTLY FROWNING FACEbSMILING FACEaSLOPE
aSLOPING LARGE ANDcORaSLOT MACHINEaSLOTHaSMALL AIRPLANEbAMPERSANDbASTERISKbBLUE DIAMONDbCOLON
bCOMMAbCOMMERCIAL ATbCONTAINS AS MEMBERcWITH OVERBARdVERTICAL BAR AT END OF HORIZONTAL STROKE
bDOLLAR SIGNbELEMENT OFdWITH OVERBAReVERTICAL BAR AT END OF HORIZONTAL STROKEbEM DASHbEQUALS SIGN
bEXCLAMATION MARKbFULL STOPbGREATER-THAN SIGNbHYPHEN-MINUSbIDEOGRAPHIC COMMAbLEFT CURLY BRACKET
cPARENTHESIScTORTOISE SHELL BRACKETbLESS-THAN SIGNbNUMBER SIGNbORANGE DIAMONDbPERCENT SIGN
bPLUS SIGNbQUESTION MARKbREVERSE SOLIDUSbRIGHT CURLY BRACKETcPARENTHESIScTORTOISE SHELL BRACKET
bROMAN NUMERAL EIGHTdELEVENdFIFTYdFIVEeHUNDREDdFOURdNINEdONEeHUNDREDeTHOUSANDdSEVENdSIXdTENdTHREE
dTWELVEdTWObSEMICOLONbTILDEbTWO DOTS OVER ONE DOT PUNCTUATIONbVEE WITH UNDERBARaSMALLER THAN
cOR EQUAL TOaSMASH PRODUCTaSMILEaSMILING CAT FACE WITH HEART-SHAPED EYESeOPEN MOUTHbFACE WITH HALO
dHEART-SHAPED EYESdHORNSdOPEN MOUTHfAND COLD SWEATgSMILING EYESgTIGHTLY-CLOSED EYESdSMILING EYES
fAND HAND COVERING MOUTHgTHREE HEARTSdSUNGLASSESdTEARaSMIRKING FACEaSMOKING SYMBOLaSNAILaSNAKE
aSNEEZING FACEaSNOW CAPPED MOUNTAINaSNOWBOARDERaSNOWFLAKEaSNOWMANbWITHOUT SNOWaSOaSOCCER BALL
aSOCKSaSOFT HYPHENbICE CREAMbSHELL FLOPPY DISKaSOFTBALLaSOFTWARE-FUNCTION SYMBOL
aSOGDIAN COMBINING CURVE ABOVEdBELOWcDOT ABOVEdBELOWcHOOK ABOVEdBELOWcLONG HOOK BELOWcRESH BELOW
cSTROKE BELOWcTWO DOTS ABOVEeBELOWbINDEPENDENT SHINbLETTER ALEPHcAYINcBETHcFETHcGIMELcHEcHETHcKAPH
cLAMEDHcLESHcMEMcNUNcPEcRESH-AYINcSADHEcSAMEKHcSHINcTAWcWAWcYODHcZAYINbNUMBER ONEdHUNDREDcTEN
cTWENTYbPUNCTUATION CIRCLE WITH DOTcHALF CIRCLE WITH DOTcTWO CIRCLES WITH DOTSdVERTICAL BARS
fWITH DOTSaSOHaSOLID QUILT SQUARE ORNAMENTeIN BLACK SQUAREaSOLIDUSbWITH OVERBARaSOM SIGN
aSOON WITH RIGHTWARDS ARROW ABOVEaSORA SOMPENG DIGIT EIGHTdFIVEdFOURdNINEdONEdSEVENdSIXdTHREEdTWO
dZEROcLETTER AHdBAHdCAHdDAHdEEHdEHdGAHdHAHdIHdJAHdKAHdLAHdMAEdMAHdNAHdNGAHdNYAHdOHdPAHdRAHdSAHdTAH
dUHdVAHdYAHaSOSaSOUND RECORDING COPYRIGHTaSOUTH EAST ARROWdAND SOUTH WEST ARROW
dCROSSING NORTH EAST ARROWdTO CORNERdWITH HOOKcBLACK ARROWcDOUBLE ARROWcPOINTING BUDdLEAF
dVINE LEAFcSANS-SERIF ARROWcTRIANGLE-HEADED ARROWeTO BARcWHITE ARROWbWEST ARROW
dAND NORTH WEST ARROWdWITH HOOKcBLACK ARROWcDOUBLE ARROWcPOINTING BUDdLEAFdVINE LEAF
cSANS-SERIF ARROWcTRIANGLE-HEADED ARROWeTO BARcWHITE ARROWaSOYOMBO CLUSTER-INITIAL LETTER LAdRAdSA
dSHAbFINAL CONSONANT SIGN -AeBeDeGeKeLeMeNeNGeReSeSHbGEMINATION MARKbHEAD MARK WITH MOON AND SUN
hAND FLAMEiTRIPLE FLAMEbLETTER -AcAcBAcBHAcCAcCHAcDAcDDAcDDHAcDHAcDZAcGAcGHAcHAcJAcJHAcKAcKHAcKSSA
cLAcMAcNAcNGAcNNAcNYAcPAcPHAcRAcSAcSHAcSSAcTAcTHAcTSAcTSHAcTTAcTTHAcVAcYAcZAcZHAbMARK DOUBLE SHAD
cPLUTAcSHADcTSHEGbSIGN ANUSVARAcJIHVAMULIYAcUPADHMANIYAcVISARGAbSUBJOINERbTERMINAL MARK-1cMARK-2
bVOWEL LENGTH MARKcSIGN AIdAUdEdIdOdOEdUdUEdVOCALIC LeRaSPaSPAaSPACEaSPAGHETTIaSPARKLEaSPARKLES
aSPARKLING HEARTaSPEAK-NO-EVIL MONKEYaSPEAKERbWITH CANCELLATION STROKEcONE SOUND WAVE
cTHREE SOUND WAVESaSPEAKING HEAD IN SILHOUETTEaSPEECH BALLOONaSPEEDBOATaSPESMILO SIGN
aSPHERICAL ANGLEcOPENING LEFTdUPaSPIDERbWEBaSPIRAL CALENDAR PADbNOTE PADbSHELL
aSPLASHING SWEAT SYMBOLaSPONGEaSPOOL OF THREADaSPOONaSPORTS MEDALaSPOUTING WHALEaSQUARE A OVER M
bAARUbAMbANPEAbAPAATObARUHUAbAUbBAARERUbBARbBEETAbBIRUbBORUTObBQbBUSSYERUbC OVER KGbCALbCAPbCCbCD
bCMcCUBEDcSQUAREDbCObCORPORATIONbCUPbDAbDAASUbDBbDESIbDJbDLbDMcCUBEDcSQUAREDbDORUbEEKAA
bERA NAME HEISEIdMEIZIdREIWAdSYOUWAdTAISYOUbERGbESUKUUDObEVbFMbFOOTbFOUR CORNERSbGALbGANMAbGARON
bGBbGHZbGIGAbGINIIbGIRUDAAbGPAbGURAMUbGURAMUTONbGYbHAbHAITUbHEKUTAARUbHERUTUbHGbHIRAGANA HOKAbHON
bHOONbHOORUbHPbHPAbHUARADDObHUIITObHURANbHZbIMAGE OFdOR EQUAL TOeNOT EQUAL TObINbININGUbINTIbIU
bK OHMbKAbKAIRIbKARATTObKARORIIbKBbKCALbKEESUbKGbKHZbKIRObKIROGURAMUbKIROMEETORUbKIROWATTObKKbKL
bKMcCAPITALcCUBEDcSQUAREDbKOOPObKORUNAbKPAbKTbKUROONEbKURUZEIRObKVbKWbKYURII
bLEFT OPEN BOX OPERATORbLMbLNbLOGbLOZENGEbLXbM CUBEDcOHMcOVER SeSQUAREDcSQUAREDbMAbMAHHAbMAIKURO
bMAIRUbMANSYONbMARUKUbMBcSMALLbMEETORUbMEGAbMEGATONbMGbMHZbMIKURONbMILbMIRIbMIRIBAARUbMLbMMcCUBED
cSQUAREDbMOLbMPAbMSbMU AcFcGcLcMcScVcWbMVcMEGAbMWcMEGAbNAbNANObNFbNMbNOTTObNSbNVbNWbONSUbOOMU
bORIGINAL OFdOR EQUAL TOeNOT EQUAL TObOVbPAcAMPSbPAASENTObPAATUbPCbPEEZIbPENIHIbPENSUbPESObPFbPH
bPIASUTORUbPIKObPIKURUbPMbPOINTObPONDObPOSITION INDICATORbPPMbPRbPSbPVbPWbRADcOVER SeSQUAREDbREMU
bRENTOGENbRIGHT OPEN BOX OPERATORbRIRAbRITTORUbROOTbRUPIIbRUUBURUbSAIKURUbSANTIIMUbSENTIbSENTO
bSIRINGUbSRbSVbTARGETbTHZbTONbUONbV OVER MbWATTObWBbWITH BOTTOM HALF BLACKcCONTOURED OUTLINE
cDIAGONAL CROSSHATCH FILLcHORIZONTAL FILLcLEFT HALF BLACKcLOWER LEFT DIAGONAL HALF BLACK
dRIGHT DIAGONAL HALF BLACKcORTHOGONAL CROSSHATCH FILLcRIGHT HALF BLACKcTOP HALF BLACK
cUPPER LEFT DIAGONAL HALF BLACKeTO LOWER RIGHT FILLdRIGHT DIAGONAL HALF BLACKeTO LOWER LEFT FILL
cVERTICAL FILLbYAADObYAARUbYUANaSQUARED ASTERISKbCJK UNIFIED IDEOGRAPH-4E00dIDEOGRAPH-4E09
dIDEOGRAPH-4E2DdIDEOGRAPH-4E8CdIDEOGRAPH-4EA4dIDEOGRAPH-518DdIDEOGRAPH-521DdIDEOGRAPH-524D
dIDEOGRAPH-5272dIDEOGRAPH-53CCdIDEOGRAPH-53F3dIDEOGRAPH-5408dIDEOGRAPH-5439dIDEOGRAPH-55B6
dIDEOGRAPH-58F0dIDEOGRAPH-591AdIDEOGRAPH-5929dIDEOGRAPH-5B57dIDEOGRAPH-5DE6dIDEOGRAPH-5F8C
dIDEOGRAPH-624BdIDEOGRAPH-6253dIDEOGRAPH-6295dIDEOGRAPH-6307dIDEOGRAPH-6355dIDEOGRAPH-6599
dIDEOGRAPH-65B0dIDEOGRAPH-6620dIDEOGRAPH-6708dIDEOGRAPH-6709dIDEOGRAPH-6E80dIDEOGRAPH-6F14
dIDEOGRAPH-7121dIDEOGRAPH-751FdIDEOGRAPH-7533dIDEOGRAPH-7981dIDEOGRAPH-7A7AdIDEOGRAPH-7D42
dIDEOGRAPH-89E3dIDEOGRAPH-8CA9dIDEOGRAPH-8D70dIDEOGRAPH-904AdIDEOGRAPH-914DbCLbCOOLbDOT OPERATOR
bEIGHT KbFALLING DIAGONAL SLASHbFIVE POINT ONEbFOUR DOT PUNCTUATIONcKbFREEbHCbHDRbHI-RESbHVbID
bKATAKANA DEcKOKOcSAbKEYbLATIN CAPITAL LETTER AeBeCeDeEeFeGeHeIeJeKeLeMeNeOePeQeReSeTeUeVeWeXeYeZ
cSMALL LETTER DbLOGICAL ANDcORbLOSSLESSbMINUSbMVbNEWbNGbOKbONE HUNDRED TWENTY PbPLUSbPPV
bRISING DIAGONAL SLASHbSALTIREbSDbSECOND SCREENbSEVEN POINT ONEbSHVbSIXTY PbSMALL CIRCLEbSOS
bSQUAREbSSbTHREE DbTIMESbTWENTY-TWO POINT TWObTWO KbUHDbUP WITH EXCLAMATION MARKbVODbVSbWC
aSQUAT BLACK RIGHTWARDS ARROWaSQUIDaSS2aSS3aSSAaSTaSTADIUMaSTAFF OF AESCULAPIUScHERMES
aSTAMPED ENVELOPEaSTANDING PERSONaSTAR AND CRESCENTbEQUALSbOF DAVIDbOPERATORbWITH LEFT HALF BLACK
cRIGHT HALF BLACKaSTART OF GUARDED AREAcHEADINGcPROTECTED AREAcSELECTED AREAcSTRINGcTEXTaSTATION
aSTATUE OF LIBERTYaSTEAM LOCOMOTIVEaSTEAMING BOWLaSTENOGRAPHIC FULL STOPaSTETHOSCOPEaSTICK FIGURE
cLEANING LEFTdRIGHTcWITH ARMS RAISEDdDRESSaSTOCK CHARTaSTOPWATCHaSTRAIGHT RULERaSTRAIGHTNESS
aSTRAWBERRYaSTRESS OUTLINED WHITE STARaSTRICTLY EQUIVALENT TOaSTRING TERMINATORaSTS
aSTUDIO MICROPHONEaSTUFFED FLATBREADaSTUPAaSTXaSUBaSUBSCRIPT EIGHTbEQUALS SIGNbFIVEbFOUR
bLEFT PARENTHESISbMINUSbNINEbONEbPLUS SIGNbRIGHT PARENTHESISbSEVENbSIXbTHREEbTWObZERO
aSUBSET ABOVE RIGHTWARDS ARROWcSUBSETcSUPERSETbOFcABOVE ALMOST EQUAL TOdEQUALS SIGNdNOT EQUAL TO
dTILDE OPERATORcOR EQUAL TOfWITH DOT ABOVEcWITH NOT EQUAL TObWITH DOTcMULTIPLICATION SIGN BELOW
cPLUS SIGN BELOWaSUBSTITUTEaSUCCEEDSbABOVE ALMOST EQUAL TOcEQUALS SIGNcNOT ALMOST EQUAL TO
dEQUAL TOcSINGLE-LINE EQUALS SIGNdNOT EQUAL TObBUT NOT EQUIVALENT TObOR EQUAL TOcEQUIVALENT TO
bUNDER RELATIONaSUMMATION BOTTOMbTOPbWITH INTEGRALaSUNbBEHIND CLOUDbWITH FACEaSUNDANESE AVAGRAHA
bCONSONANT SIGN PAMINGKALdPANYAKRAdPANYIKUdPASANGAN MAeWAbDIGIT EIGHTcFIVEcFOURcNINEcONEcSEVENcSIX
cTHREEcTWOcZERObLETTER AcAEcBAcBHAcCAcDAcEcEUcFAcFINAL KdMcGAcHAcIcJAcKAcKHAcLAcLEUcMAcNAcNGAcNYA
cOcPAcQAcRAcREUcSAcSYAcTAcUcVAcWAcXAcYAcZAbPUNCTUATION BINDU BA SATANGAdCAKRAdDA SATANGA
dKA SATANGAdLEU SATANGAdPANGLONGdPURNAMAdSURYAbSIGN PAMAAEHcPANGLAYARcPANGWISADcPANYECEKcVIRAMA
bVOWEL SIGN PAMEPETdPANAELAENGdPANEULEUNGdPANGHULUdPANOLONGdPANYUKUaSUNFLOWERaSUNRISE
bOVER MOUNTAINSaSUNSET OVER BUILDINGSaSUPERHEROaSUPERSCRIPT EIGHTbEQUALS SIGNbFIVEbFOUR
bLATIN SMALL LETTER IeNbLEFT PARENTHESISbMINUSbNINEbONEbPLUS SIGNbRIGHT PARENTHESISbSEVENbSIX
bTHREEbTWObZEROaSUPERSET ABOVE LEFTWARDS ARROWcSUBSETcSUPERSET
bBESIDE AND JOINED BY DASH WITH SUBSETcSUBSETbOFcABOVE ALMOST EQUAL TOdEQUALS SIGNdNOT EQUAL TO
dTILDE OPERATORcOR EQUAL TOfWITH DOT ABOVEcWITH NOT EQUAL TObPRECEDING SOLIDUSbWITH DOT
cMULTIPLICATION SIGN BELOWcPLUS SIGN BELOWaSUPERVILLAINaSURFACE INTEGRALaSURFERaSUSHI
aSUSPENSION RAILWAYaSWANaSWASH AMPERSAND ORNAMENTaSWIMMERaSWUNG DASHaSYLOTI NAGRI LETTER AdBHOdBO
dCHOdCOdDDHOdDDOdDHOdDOdEdGHOdGOdHOdIdJHOdJOdKHOdKOdLOdMOdNOdOdPHOdPOdROdRROdSOdTHOdTOdTTHOdTTOdU
cPOETRY MARK-1dMARK-2dMARK-3dMARK-4cSIGN ALTERNATE HASANTAdANUSVARAdDVISVARAdHASANTAcVOWEL SIGN A
eEeIeOOeUaSYMBOL FOR ACKNOWLEDGEcBACKSPACEcBELLcCANCELcCARRIAGE RETURNcDATA LINK ESCAPEcDELETE
dFORM TWOcDEVICE CONTROL FOUReONEeTHREEeTWOcEND OF MEDIUMeTEXTeTRANSMISSIONfBLOCKcENQUIRYcESCAPE
cFILE SEPARATORcFORM FEEDcGROUP SEPARATORcHORIZONTAL TABULATIONcLINE FEEDcMARKS CHAPTER
cNEGATIVE ACKNOWLEDGEcNEWLINEcNULLcRECORD SEPARATORcSAMARITAN SOURCEcSHIFT INdOUTcSPACE
cSTART OF HEADINGeTEXTcSUBSTITUTEdFORM TWOcSYNCHRONOUS IDLEcTYPE A ELECTRONICScUNIT SEPARATOR
cVERTICAL TABULATIONaSYMMETRYaSYNaSYNAGOGUEaSYNCHRONOUS IDLEaSYRIAC ABBREVIATION MARKbBARREKH
bCOLON SKEWED LEFTdRIGHTbCONTRACTIONbDOTTED ZLAMA ANGULARdHORIZONTALbEND OF PARAGRAPHbESASA ABOVE
cBELOWbFEMININE DOTbHARKLEAN ASTERISCUScMETOBELUScOBELUSbHBASA ABOVEcBELOWbHBASA-ESASA DOTTED
bHORIZONTAL COLONbLETTER ALAPHcBETHcDALATHcDOTLESS DALATH RISHcEcFINAL SEMKATHcGAMALdGARSHUNIcHE
cHETHcKAPHcLAMADHcMALAYALAM BHAdJAdLLAdLLLAdNGAdNNAdNNNAdNYAdRAdSSAdTTAcMIMcNUNcPEcPERSIAN BHETH
dDHALATHdGHAMALcQAPHcREVERSED PEcRISHcSADHEcSEMKATHcSHINcSOGDIAN FEdKHAPHdZHAINcSUPERSCRIPT ALAPH
cTAWcTETHdGARSHUNIcWAWcYUDHdHEcZAINbMUSICbOBLIQUE LINE ABOVEdBELOWbPTHAHA ABOVEcBELOWcDOTTED
bQUSHSHAYAbRBASA ABOVEcBELOWbRUKKAKHAbRWAHAbSUBLINEAR COLONdSKEWED LEFTeRIGHTcFULL STOP
bSUPRALINEAR COLONdSKEWED LEFTcFULL STOPbTHREE DOTS ABOVEdBELOWbTWO VERTICAL DOTS ABOVEeBELOW
bZQAPHA ABOVEcBELOWcDOTTEDaSYRINGEaT-REXaT-SHIRTaTABaTABLE TENNIS PADDLE AND BALLaTACO
aTAG AMPERSANDbAPOSTROPHEbASTERISKbCIRCUMFLEX ACCENTbCOLONbCOMMAbCOMMERCIAL ATbDIGIT EIGHTcFIVE
cFOURcNINEcONEcSEVENcSIXcTHREEcTWOcZERObDOLLAR SIGNbEQUALS SIGNbEXCLAMATION MARKbFULL STOP
bGRAVE ACCENTbGREATER-THAN SIGNbHYPHEN-MINUSbLATIN CAPITAL LETTER AeBeCeDeEeFeGeHeIeJeKeLeMeNeOeP
eQeReSeTeUeVeWeXeYeZcSMALL LETTER AeBeCeDeEeFeGeHeIeJeKeLeMeNeOePeQeReSeTeUeVeWeXeYeZ
bLEFT CURLY BRACKETcPARENTHESIScSQUARE BRACKETbLESS-THAN SIGNbLOW LINEbNUMBER SIGNbPERCENT SIGN
bPLUS SIGNbQUESTION MARKbQUOTATION MARKbREVERSE SOLIDUSbRIGHT CURLY BRACKETcPARENTHESIS
cSQUARE BRACKETbSEMICOLONbSOLIDUSbSPACEbTILDEbVERTICAL LINEaTAGALOG LETTER AcARCHAIC RAcBAcDAcGA
cHAcIcKAcLAcMAcNAcNGAcPAcRAcSAcTAcUcWAcYAbSIGN PAMUDPODcVIRAMAbVOWEL SIGN IdUaTAGBANWA LETTER AcBA
cDAcGAcIcKAcLAcMAcNAcNGAcPAcSAcTAcUcWAcYAbVOWEL SIGN IdUaTAI LE LETTER AdAIdAUEdEdEEdEHdFAdHAdIdKA
dKHAdLAdMAdNAdNGAdOdOOdPAdPHAdQAdSAdTAdTHAdTONE-2dTONE-3dTONE-4dTONE-5dTONE-6dTSAdTSHAdUdUEdVAdXA
dYAbTHAM COMBINING CRYPTOGRAMMIC DOTcCONSONANT SIGN BAeFINAL NGAeHIGH RATHA OR LOW PAeLA TANG LAI
eLOW PAeMAeMEDIAL LAfRAeSAcHORA DIGIT EIGHTeFIVEeFOUReNINEeONEeSEVENeSIXeTHREEeTWOeZEROcLETTER A
dBAdDAdEEdGREAT SAdHIGH CAeCHAeFAeHAeKAeKHAeKXAePAePHAeRATHAeSAeSHAeSSAeTAeTHAeYAdIdIIdLAdLAEdLLA
dLOW CAeCHAeFAeHAeKAeKHAeKXAePAePHAeRATHAeSAeTAeTHAeYAdLUEdMAdNAdNGAdNYAdOOdRAdRANAdRATAdRUEdUdUU
dWAcSIGN CAANGdDOKMAIdHANGdHOYdKAANdKAANKUUdKEOWdKHUEN TONE-3eTONE-4eTONE-5dKHUEN-LUE KARAN
dMAI KANGfLAIeSAMeYAMOKdRA HAAMdREVERSED ROTATED RANAdSAKOTdSATKAANdSATKAANKUUdSAWANdTONE-1dTONE-2
dWIANGdWIANGWAAKcTHAM DIGIT EIGHTeFIVEeFOUReNINEeONEeSEVENeSIXeTHREEeTWOeZEROcVOWEL SIGN AeAAeAE
eAIeEeIeIIeMAI SATeOeOA ABOVEfBELOWeOOeOYeTALL AAeTHAM AIeUeUEeUUeUUEbVIET LETTER HIGH BOeCHOeCO
eDOeFOeGOeHOeKHHOeKHOeKOeLOeMOeNGOeNOeNYOeOePHOePOeROeSOeTHOeTOeVOeYOdLOW BOeCHOeCOeDOeFOeGOeHO
eKHHOeKHOeKOeLOeMOeNGOeNOeNYOeOePHOePOeROeSOeTHOeTOeVOeYOcMAI KANGdKHITcSYMBOL HO HOIdKOI KOIdKON
dNUENGdSAMcTONE MAI EKeNUENGeSONGeTHOcVOWEL AAdAMdANdAUEdAYdEdIdIAdOdUdUAdUEdUEAaTAKEOUT BOX
aTAKRI ABBREVIATION SIGNbDIGIT EIGHTcFIVEcFOURcNINEcONEcSEVENcSIXcTHREEcTWOcZERObLETTER AcAAcAI
cARCHAIC KHAcAUcBAcBHAcCAcCHAcDAcDDAcDDHAcDHAcEcGAcGHAcHAcIcIIcJAcJHAcKAcKHAcLAcMAcNAcNGAcNNAcNYA
cOcPAcPHAcRAcRRAcSAcSHAcTAcTHAcTTAcTTHAcUcUUcVAcYAbSIGN ANUSVARAcNUKTAcVIRAMAcVISARGA
bVOWEL SIGN AAdAIdAUdEdIdIIdOdUdUUaTALLY MARK FIVEcONEaTAMALEaTAMIL AND ODD SIGNbAS ABOVE SIGN
bAU LENGTH MARKbCREDIT SIGNbCURRENT SIGNbDAY SIGNbDEBIT SIGNbDIGIT EIGHTcFIVEcFOURcNINEcONEcSEVEN
cSIXcTHREEcTWOcZERObDRY CULTIVATION SIGNbFRACTION DOWNSCALING FACTOR KIIZHcONE EIGHTHdEIGHTIETH
dFIFTHdFORTIETHdHALF-1dHALF-2dONE-HUNDRED-AND-SIXTIETHdQUARTERdSIXTEENTH-1dSIXTEENTH-2
dSIXTY-FOURTHdTENTHdTHIRTY-SECONDdTHREE-HUNDRED-AND-TWENTIETHdTWENTIETHcTHREE EIGHTIETHSdQUARTERS
dSIXTEENTHSdSIXTY-FOURTHSdTWENTIETHSbIN POSSESSION SIGNbLAND SIGNbLETTER AcAAcAIcAUcCAcEcEEcHAcI
cIIcJAcKAcLAcLLAcLLLAcMAcNAcNGAcNNAcNNNAcNYAcOcOOcPAcRAcRRAcSAcSHAcSSAcTAcTTAcUcUUcVAcYA
bMONTH SIGNbNUMBER ONE HUNDREDdTHOUSANDcSIGNcTENbOMbPUNCTUATION END OF TEXTbRUPEE SIGN
bSALT PAN SIGNbSIGN AAZHAAKKUcANUSVARAcCEVITUcKAACUcKURUNIcKUZHIcMUKKURUNIcMUTHALIYAcMUUVUZHAKKU
cNELcPAARAMcPANAMcPATHAKKUcPONcUZHAKKUcVAKAIYARAAcVARAAKANcVELIcVIRAMAcVISARGAbSPENT SIGN
bSTARTING FROM SIGNbTOTAL SIGNbTRADITIONAL CREDIT SIGNcNUMBER SIGNbVOWEL SIGN AAdAIdAUdEdEEdIdIIdO
dOOdUdUUbWET CULTIVATION SIGNbYEAR SIGNaTANABATA TREEaTANGERINEaTANGSA DIGIT EIGHTcFIVEcFOURcNINE
cONEcSEVENcSIXcTHREEcTWOcZERObLETTER ACcAQcAWCcAWQcAWXcAWZcAXcAZcBAcCAcCHAcDAcDHAcECcEQcEXcEZcFA
cFINAL NGcGAcGHAcHAcHTAcHTTAcICcIQcIXcIZcKAcKHAcLAcLONG UEXcMAcMCcMQcMXcMZcNAcNGAcNHAcNYAcOCcOQcOX
cOZcPAcPHAcRAcSAcSHAcSHORT AWXdUEZcTAcTHAcTSAcUCcUECcUEQcUEXcUEZcUICcUIQcUIUCcUIUQcUIUXcUIUZcUIX
cUIZcUQcUXcUZcVCcVQcVXcVZcWAcXAcYAcZAaTANGUT COMPONENT-001bCOMPONENT-002bCOMPONENT-003
bCOMPONENT-004bCOMPONENT-005bCOMPONENT-006bCOMPONENT-007bCOMPONENT-008bCOMPONENT-009bCOMPONENT-010
bCOMPONENT-011bCOMPONENT-012bCOMPONENT-013bCOMPONENT-014bCOMPONENT-015bCOMPONENT-016bCOMPONENT-017
bCOMPONENT-018bCOMPONENT-019bCOMPONENT-020bCOMPONENT-021bCOMPONENT-022bCOMPONENT-023bCOMPONENT-024
bCOMPONENT-025bCOMPONENT-026bCOMPONENT-027bCOMPONENT-028bCOMPONENT-029bCOMPONENT-030bCOMPONENT-031
bCOMPONENT-032bCOMPONENT-033bCOMPONENT-034bCOMPONENT-035bCOMPONENT-036bCOMPONENT-037bCOMPONENT-038
bCOMPONENT-039bCOMPONENT-040bCOMPONENT-041bCOMPONENT-042bCOMPONENT-043bCOMPONENT-044bCOMPONENT-045
bCOMPONENT-046bCOMPONENT-047bCOMPONENT-048bCOMPONENT-049bCOMPONENT-050bCOMPONENT-051bCOMPONENT-052
bCOMPONENT-053bCOMPONENT-054bCOMPONENT-055bCOMPONENT-056bCOMPONENT-057bCOMPONENT-058bCOMPONENT-059
bCOMPONENT-060bCOMPONENT-061bCOMPONENT-062bCOMPONENT-063bCOMPONENT-064bCOMPONENT-065bCOMPONENT-066
bCOMPONENT-067bCOMPONENT-068bCOMPONENT-069bCOMPONENT-070bCOMPONENT-071bCOMPONENT-072bCOMPONENT-073
bCOMPONENT-074bCOMPONENT-075bCOMPONENT-076bCOMPONENT-077bCOMPONENT-078bCOMPONENT-079bCOMPONENT-080
bCOMPONENT-081bCOMPONENT-082bCOMPONENT-083bCOMPONENT-084bCOMPONENT-085bCOMPONENT-086bCOMPONENT-087
bCOMPONENT-088bCOMPONENT-089bCOMPONENT-090bCOMPONENT-091bCOMPONENT-092bCOMPONENT-093bCOMPONENT-094
bCOMPONENT-095bCOMPONENT-096bCOMPONENT-097bCOMPONENT-098bCOMPONENT-099bCOMPONENT-100bCOMPONENT-101
bCOMPONENT-102bCOMPONENT-103bCOMPONENT-104bCOMPONENT-105bCOMPONENT-106bCOMPONENT-107bCOMPONENT-108
bCOMPONENT-109bCOMPONENT-110bCOMPONENT-111bCOMPONENT-112bCOMPONENT-113bCOMPONENT-114bCOMPONENT-115
bCOMPONENT-116bCOMPONENT-117bCOMPONENT-118bCOMPONENT-119bCOMPONENT-120bCOMPONENT-121bCOMPONENT-122
bCOMPONENT-123bCOMPONENT-124bCOMPONENT-125bCOMPONENT-126bCOMPONENT-127bCOMPONENT-128bCOMPONENT-129
bCOMPONENT-130bCOMPONENT-131bCOMPONENT-132bCOMPONENT-133bCOMPONENT-134bCOMPONENT-135bCOMPONENT-136
bCOMPONENT-137bCOMPONENT-138bCOMPONENT-139bCOMPONENT-140bCOMPONENT-141bCOMPONENT-142bCOMPONENT-143
bCOMPONENT-144bCOMPONENT-145bCOMPONENT-146bCOMPONENT-147bCOMPONENT-148bCOMPONENT-149bCOMPONENT-150
bCOMPONENT-151bCOMPONENT-152bCOMPONENT-153bCOMPONENT-154bCOMPONENT-155bCOMPONENT-156bCOMPONENT-157
bCOMPONENT-158bCOMPONENT-159bCOMPONENT-160bCOMPONENT-161bCOMPONENT-162bCOMPONENT-163bCOMPONENT-164
bCOMPONENT-165bCOMPONENT-166bCOMPONENT-167bCOMPONENT-168bCOMPONENT-169bCOMPONENT-170bCOMPONENT-171
bCOMPONENT-172bCOMPONENT-173bCOMPONENT-174bCOMPONENT-175bCOMPONENT-176bCOMPONENT-177bCOMPONENT-178
bCOMPONENT-179bCOMPONENT-180bCOMPONENT-181bCOMPONENT-182bCOMPONENT-183bCOMPONENT-184bCOMPONENT-185
bCOMPONENT-186bCOMPONENT-187bCOMPONENT-188bCOMPONENT-189bCOMPONENT-190bCOMPONENT-191bCOMPONENT-192
bCOMPONENT-193bCOMPONENT-194bCOMPONENT-195bCOMPONENT-196bCOMPONENT-197bCOMPONENT-198bCOMPONENT-199
bCOMPONENT-200bCOMPONENT-201bCOMPONENT-202bCOMPONENT-203bCOMPONENT-204bCOMPONENT-205bCOMPONENT-206
bCOMPONENT-207bCOMPONENT-208bCOMPONENT-209bCOMPONENT-210bCOMPONENT-211bCOMPONENT-212bCOMPONENT-213
bCOMPONENT-214bCOMPONENT-215bCOMPONENT-216bCOMPONENT-217bCOMPONENT-218bCOMPONENT-219bCOMPONENT-220
bCOMPONENT-221bCOMPONENT-222bCOMPONENT-223bCOMPONENT-224bCOMPONENT-225bCOMPONENT-226bCOMPONENT-227
bCOMPONENT-228bCOMPONENT-229bCOMPONENT-230bCOMPONENT-231bCOMPONENT-232bCOMPONENT-233bCOMPONENT-234
bCOMPONENT-235bCOMPONENT-236bCOMPONENT-237bCOMPONENT-238bCOMPONENT-239bCOMPONENT-240bCOMPONENT-241
bCOMPONENT-242bCOMPONENT-243bCOMPONENT-244bCOMPONENT-245bCOMPONENT-246bCOMPONENT-247bCOMPONENT-248
bCOMPONENT-249bCOMPONENT-250bCOMPONENT-251bCOMPONENT-252bCOMPONENT-253bCOMPONENT-254bCOMPONENT-255
bCOMPONENT-256bCOMPONENT-257bCOMPONENT-258bCOMPONENT-259bCOMPONENT-260bCOMPONENT-261bCOMPONENT-262
bCOMPONENT-263bCOMPONENT-264bCOMPONENT-265bCOMPONENT-266bCOMPONENT-267bCOMPONENT-268bCOMPONENT-269
bCOMPONENT-270bCOMPONENT-271bCOMPONENT-272bCOMPONENT-273bCOMPONENT-274bCOMPONENT-275bCOMPONENT-276
bCOMPONENT-277bCOMPONENT-278bCOMPONENT-279bCOMPONENT-280bCOMPONENT-281bCOMPONENT-282bCOMPONENT-283
bCOMPONENT-284bCOMPONENT-285bCOMPONENT-286bCOMPONENT-287bCOMPONENT-288bCOMPONENT-289bCOMPONENT-290
bCOMPONENT-291bCOMPONENT-292bCOMPONENT-293bCOMPONENT-294bCOMPONENT-295bCOMPONENT-296bCOMPONENT-297
bCOMPONENT-298bCOMPONENT-299bCOMPONENT-300bCOMPONENT-301bCOMPONENT-302bCOMPONENT-303bCOMPONENT-304
bCOMPONENT-305bCOMPONENT-306bCOMPONENT-307bCOMPONENT-308bCOMPONENT-309bCOMPONENT-310bCOMPONENT-311
bCOMPONENT-312bCOMPONENT-313bCOMPONENT-314bCOMPONENT-315bCOMPONENT-316bCOMPONENT-317bCOMPONENT-318
bCOMPONENT-319bCOMPONENT-320bCOMPONENT-321bCOMPONENT-322bCOMPONENT-323bCOMPONENT-324bCOMPONENT-325
bCOMPONENT-326bCOMPONENT-327bCOMPONENT-328bCOMPONENT-329bCOMPONENT-330bCOMPONENT-331bCOMPONENT-332
bCOMPONENT-333bCOMPONENT-334bCOMPONENT-335bCOMPONENT-336bCOMPONENT-337bCOMPONENT-338bCOMPONENT-339
bCOMPONENT-340bCOMPONENT-341bCOMPONENT-342bCOMPONENT-343bCOMPONENT-344bCOMPONENT-345bCOMPONENT-346
bCOMPONENT-347bCOMPONENT-348bCOMPONENT-349bCOMPONENT-350bCOMPONENT-351bCOMPONENT-352bCOMPONENT-353
bCOMPONENT-354bCOMPONENT-355bCOMPONENT-356bCOMPONENT-357bCOMPONENT-358bCOMPONENT-359bCOMPONENT-360
bCOMPONENT-361bCOMPONENT-362bCOMPONENT-363bCOMPONENT-364bCOMPONENT-365bCOMPONENT-366bCOMPONENT-367
bCOMPONENT-368bCOMPONENT-369bCOMPONENT-370bCOMPONENT-371bCOMPONENT-372bCOMPONENT-373bCOMPONENT-374
bCOMPONENT-375bCOMPONENT-376bCOMPONENT-377bCOMPONENT-378bCOMPONENT-379bCOMPONENT-380bCOMPONENT-381
bCOMPONENT-382bCOMPONENT-383bCOMPONENT-384bCOMPONENT-385bCOMPONENT-386bCOMPONENT-387bCOMPONENT-388
bCOMPONENT-389bCOMPONENT-390bCOMPONENT-391bCOMPONENT-392bCOMPONENT-393bCOMPONENT-394bCOMPONENT-395
bCOMPONENT-396bCOMPONENT-397bCOMPONENT-398bCOMPONENT-399bCOMPONENT-400bCOMPONENT-401bCOMPONENT-402
bCOMPONENT-403bCOMPONENT-404bCOMPONENT-405bCOMPONENT-406bCOMPONENT-407bCOMPONENT-408bCOMPONENT-409
bCOMPONENT-410bCOMPONENT-411bCOMPONENT-412bCOMPONENT-413bCOMPONENT-414bCOMPONENT-415bCOMPONENT-416
bCOMPONENT-417bCOMPONENT-418bCOMPONENT-419bCOMPONENT-420bCOMPONENT-421bCOMPONENT-422bCOMPONENT-423
bCOMPONENT-424bCOMPONENT-425bCOMPONENT-426bCOMPONENT-427bCOMPONENT-428bCOMPONENT-429bCOMPONENT-430
bCOMPONENT-431bCOMPONENT-432bCOMPONENT-433bCOMPONENT-434bCOMPONENT-435bCOMPONENT-436bCOMPONENT-437
bCOMPONENT-438bCOMPONENT-439bCOMPONENT-440bCOMPONENT-441bCOMPONENT-442bCOMPONENT-443bCOMPONENT-444
bCOMPONENT-445bCOMPONENT-446bCOMPONENT-447bCOMPONENT-448bCOMPONENT-449bCOMPONENT-450bCOMPONENT-451
bCOMPONENT-452bCOMPONENT-453bCOMPONENT-454bCOMPONENT-455bCOMPONENT-456bCOMPONENT-457bCOMPONENT-458
bCOMPONENT-459bCOMPONENT-460bCOMPONENT-461bCOMPONENT-462bCOMPONENT-463bCOMPONENT-464bCOMPONENT-465
bCOMPONENT-466bCOMPONENT-467bCOMPONENT-468bCOMPONENT-469bCOMPONENT-470bCOMPONENT-471bCOMPONENT-472
bCOMPONENT-473bCOMPONENT-474bCOMPONENT-475bCOMPONENT-476bCOMPONENT-477bCOMPONENT-478bCOMPONENT-479
bCOMPONENT-480bCOMPONENT-481bCOMPONENT-482bCOMPONENT-483bCOMPONENT-484bCOMPONENT-485bCOMPONENT-486
bCOMPONENT-487bCOMPONENT-488bCOMPONENT-489bCOMPONENT-490bCOMPONENT-491bCOMPONENT-492bCOMPONENT-493
bCOMPONENT-494bCOMPONENT-495bCOMPONENT-496bCOMPONENT-497bCOMPONENT-498bCOMPONENT-499bCOMPONENT-500
bCOMPONENT-501bCOMPONENT-502bCOMPONENT-503bCOMPONENT-504bCOMPONENT-505bCOMPONENT-506bCOMPONENT-507
bCOMPONENT-508bCOMPONENT-509bCOMPONENT-510bCOMPONENT-511bCOMPONENT-512bCOMPONENT-513bCOMPONENT-514
bCOMPONENT-515bCOMPONENT-516bCOMPONENT-517bCOMPONENT-518bCOMPONENT-519bCOMPONENT-520bCOMPONENT-521
bCOMPONENT-522bCOMPONENT-523bCOMPONENT-524bCOMPONENT-525bCOMPONENT-526bCOMPONENT-527bCOMPONENT-528
bCOMPONENT-529bCOMPONENT-530bCOMPONENT-531bCOMPONENT-532bCOMPONENT-533bCOMPONENT-534bCOMPONENT-535
bCOMPONENT-536bCOMPONENT-537bCOMPONENT-538bCOMPONENT-539bCOMPONENT-540bCOMPONENT-541bCOMPONENT-542
bCOMPONENT-543bCOMPONENT-544bCOMPONENT-545bCOMPONENT-546bCOMPONENT-547bCOMPONENT-548bCOMPONENT-549
bCOMPONENT-550bCOMPONENT-551bCOMPONENT-552bCOMPONENT-553bCOMPONENT-554bCOMPONENT-555bCOMPONENT-556
bCOMPONENT-557bCOMPONENT-558bCOMPONENT-559bCOMPONENT-560bCOMPONENT-561bCOMPONENT-562bCOMPONENT-563
bCOMPONENT-564bCOMPONENT-565bCOMPONENT-566bCOMPONENT-567bCOMPONENT-568bCOMPONENT-569bCOMPONENT-570
bCOMPONENT-571bCOMPONENT-572bCOMPONENT-573bCOMPONENT-574bCOMPONENT-575bCOMPONENT-576bCOMPONENT-577
bCOMPONENT-578bCOMPONENT-579bCOMPONENT-580bCOMPONENT-581bCOMPONENT-582bCOMPONENT-583bCOMPONENT-584
bCOMPONENT-585bCOMPONENT-586bCOMPONENT-587bCOMPONENT-588bCOMPONENT-589bCOMPONENT-590bCOMPONENT-591
bCOMPONENT-592bCOMPONENT-593bCOMPONENT-594bCOMPONENT-595bCOMPONENT-596bCOMPONENT-597bCOMPONENT-598
bCOMPONENT-599bCOMPONENT-600bCOMPONENT-601bCOMPONENT-602bCOMPONENT-603bCOMPONENT-604bCOMPONENT-605
bCOMPONENT-606bCOMPONENT-607bCOMPONENT-608bCOMPONENT-609bCOMPONENT-610bCOMPONENT-611bCOMPONENT-612
bCOMPONENT-613bCOMPONENT-614bCOMPONENT-615bCOMPONENT-616bCOMPONENT-617bCOMPONENT-618bCOMPONENT-619
bCOMPONENT-620bCOMPONENT-621bCOMPONENT-622bCOMPONENT-623bCOMPONENT-624bCOMPONENT-625bCOMPONENT-626
bCOMPONENT-627bCOMPONENT-628bCOMPONENT-629bCOMPONENT-630bCOMPONENT-631bCOMPONENT-632bCOMPONENT-633
bCOMPONENT-634bCOMPONENT-635bCOMPONENT-636bCOMPONENT-637bCOMPONENT-638bCOMPONENT-639bCOMPONENT-640
bCOMPONENT-641bCOMPONENT-642bCOMPONENT-643bCOMPONENT-644bCOMPONENT-645bCOMPONENT-646bCOMPONENT-647
bCOMPONENT-648bCOMPONENT-649bCOMPONENT-650bCOMPONENT-651bCOMPONENT-652bCOMPONENT-653bCOMPONENT-654
bCOMPONENT-655bCOMPONENT-656bCOMPONENT-657bCOMPONENT-658bCOMPONENT-659bCOMPONENT-660bCOMPONENT-661
bCOMPONENT-662bCOMPONENT-663bCOMPONENT-664bCOMPONENT-665bCOMPONENT-666bCOMPONENT-667bCOMPONENT-668
bCOMPONENT-669bCOMPONENT-670bCOMPONENT-671bCOMPONENT-672bCOMPONENT-673bCOMPONENT-674bCOMPONENT-675
bCOMPONENT-676bCOMPONENT-677bCOMPONENT-678bCOMPONENT-679bCOMPONENT-680bCOMPONENT-681bCOMPONENT-682
bCOMPONENT-683bCOMPONENT-684bCOMPONENT-685bCOMPONENT-686bCOMPONENT-687bCOMPONENT-688bCOMPONENT-689
bCOMPONENT-690bCOMPONENT-691bCOMPONENT-692bCOMPONENT-693bCOMPONENT-694bCOMPONENT-695bCOMPONENT-696
bCOMPONENT-697bCOMPONENT-698bCOMPONENT-699bCOMPONENT-700bCOMPONENT-701bCOMPONENT-702bCOMPONENT-703
bCOMPONENT-704bCOMPONENT-705bCOMPONENT-706bCOMPONENT-707bCOMPONENT-708bCOMPONENT-709bCOMPONENT-710
bCOMPONENT-711bCOMPONENT-712bCOMPONENT-713bCOMPONENT-714bCOMPONENT-715bCOMPONENT-716bCOMPONENT-717
bCOMPONENT-718bCOMPONENT-719bCOMPONENT-720bCOMPONENT-721bCOMPONENT-722bCOMPONENT-723bCOMPONENT-724
bCOMPONENT-725bCOMPONENT-726bCOMPONENT-727bCOMPONENT-728bCOMPONENT-729bCOMPONENT-730bCOMPONENT-731
bCOMPONENT-732bCOMPONENT-733bCOMPONENT-734bCOMPONENT-735bCOMPONENT-736bCOMPONENT-737bCOMPONENT-738
bCOMPONENT-739bCOMPONENT-740bCOMPONENT-741bCOMPONENT-742bCOMPONENT-743bCOMPONENT-744bCOMPONENT-745
bCOMPONENT-746bCOMPONENT-747bCOMPONENT-748bCOMPONENT-749bCOMPONENT-750bCOMPONENT-751bCOMPONENT-752
bCOMPONENT-753bCOMPONENT-754bCOMPONENT-755bCOMPONENT-756bCOMPONENT-757bCOMPONENT-758bCOMPONENT-759
bCOMPONENT-760bCOMPONENT-761bCOMPONENT-762bCOMPONENT-763bCOMPONENT-764bCOMPONENT-765bCOMPONENT-766
bCOMPONENT-767bCOMPONENT-768bITERATION MARKaTAPE CARTRIDGEbDRIVEaTAURUSaTAXIaTEACUP WITHOUT HANDLE
aTEAPOTaTEAR-OFF CALENDARaTEARDROP-BARBED RIGHTWARDS ARROWaTEARDROP-SPOKED ASTERISKaTEDDY BEAR
aTELEPHONE LOCATION SIGNbON TOP OF MODEMbRECEIVERcWITH PAGEbRECORDERbSIGNaTELESCOPEaTELEVISION
aTELUGU AI LENGTH MARKbDIGIT EIGHTcFIVEcFOURcNINEcONEcSEVENcSIXcTHREEcTWOcZERO
bFRACTION DIGIT ONE FOR EVEN POWERS OF FOURfODD POWERS OF FOURdTHREE FOR EVEN POWERS OF FOUR
fODD POWERS OF FOURdTWO FOR EVEN POWERS OF FOURfODD POWERS OF FOURdZERO FOR ODD POWERS OF FOUR
bLENGTH MARKbLETTER AcAAcAIcAUcBAcBHAcCAcCHAcDAcDDAcDDHAcDHAcDZAcEcEEcGAcGHAcHAcIcIIcJAcJHAcKAcKHA
cLAcLLAcLLLAcMAcNAcNAKAARA POLLUcNGAcNNAcNYAcOcOOcPAcPHAcRAcRRAcRRRAcSAcSHAcSSAcTAcTHAcTSAcTTA
cTTHAcUcUUcVAcVOCALIC LdLLdRdRRcYAbSIGN ANUSVARAcAVAGRAHAcCANDRABINDUcCOMBINING ANUSVARA ABOVE
dCANDRABINDU ABOVEcNUKTAcSIDDHAMcTUUMUcVIRAMAcVISARGAbVOWEL SIGN AAdAIdAUdEdEEdIdIIdOdOOdUdUU
dVOCALIC LeLLeReRRaTENGE SIGNaTENNIS RACQUET AND BALLaTENTaTEST TUBEaTETRAGRAM FOR ACCUMULATION
cADVANCEcAGGRAVATIONcASCENTcBARRIERcBOLD RESOLUTIONcBRANCHING OUTcCENTREcCHANGEcCLOSED MOUTH
cCLOSENESScCLOSUREcCOMPLETIONcCOMPLIANCEcCONSTANCYcCONTACTcCONTENTIONcCONTRARIETYcDARKENING
cDECISIVENESScDEFECTIVENESS OR DISTORTIONcDEPARTUREcDIFFICULTIEScDIMINISHMENTcDIMMINGcDIVERGENCE
cDOUBTcDUTIEScEASEcEMBELLISHMENTcENCOUNTERScENDEAVOURcENLARGEMENTcETERNITYcEXHAUSTIONcFAILURE
cFLIGHTcFOLLOWINGcFOSTERINGcFULL CIRCLEcFULLNESScGATHERINGdINcGOING TO MEETcGREATNESScGUARDEDNESS
cHARDNESScHOLDING BACKcINCREASEcINNERcJOYcKEEPING SMALLcKINSHIPcLABOURINGcLAW OR MODELcLEGION
cMASSINGcMEASUREcMIREDcON THE VERGEcOPPOSITIONcPACKINGcPATTERNcPENETRATIONcPURITYcREACHcRELEASE
cRESIDENCEcRESISTANCEcRESPONSEcRITUALcSEVERANCEcSINKINGcSTOPPAGEcSTOVEcSTRENGTHcUNITY
cVASTNESS OR WASTINGcWAITINGcWATCHcYOUTHFULNESSaTHAANA AABAAFILIbABAFILIbEBEFILIbEEBEEFILI
bEYBEYFILIbIBIFILIbLETTER AINUcALIFUcBAAcCHAVIYANIcDAADHUcDAVIYANIcDHAALUcFAAFUcGAAFUcGHAINU
cGNAVIYANIcHAAcHHAAcJAVIYANIcKAAFUcKHAAcLAAMUcLHAVIYANIcMEEMUcNAAcNOONUcPAVIYANIcQAAFUcRAAcSAADHU
cSEENUcSHAVIYANIcSHEENUcTAVIYANIcTHAAcTHAALUcTOcTTAAcVAAVUcWAAVUcYAAcZAAcZAVIYANIcZObOABOAFILI
bOBOFILIbOOBOOFILIbSUKUNbUBUFILIaTHAI CHARACTER ANGKHANKHUcBO BAIMAIcCHO CHANdCHANGdCHINGdCHOE
cDO CHADAdDEKcFO FAdFANcFONGMANcHO HIPdNOKHUKcKHO KHAIdKHONdKHUATdKHWAIdRAKHANGcKHOMUTcKO KAI
cLAKKHANGYAOcLO CHULAdLINGcLUcMAI CHATTAWAdEKdHAN-AKATdTHOdTRIcMAITAIKHUcMAIYAMOKcMO MAcNGO NGU
cNIKHAHITcNO NENdNUcO ANGcPAIYANNOIcPHINTHUcPHO PHANdPHUNGdSAMPHAOcPO PLAcRO RUAcRUcSARA AdAAdAE
dAI MAIMALAIeMAIMUANdAMdEdIdIIdOdUdUEdUEEdUUcSO RUSIdSALAdSOdSUAcTHANTHAKHATcTHO NANGMONTHO
dPHUTHAOdTHAHANdTHANdTHONGdTHUNGcTO PATAKdTAOcWO WAENcYAMAKKANcYO YAKdYINGbCURRENCY SYMBOL BAHT
bDIGIT EIGHTcFIVEcFOURcNINEcONEcSEVENcSIXcTHREEcTWOcZEROaTHERE DOES NOT EXISTbEXISTSaTHEREFORE
aTHERMODYNAMICaTHERMOMETERaTHIN GREEK CROSSbSALTIREbSPACEaTHINKING FACEaTHIRD PLACE MEDAL
aTHONG SANDALaTHOUGHT BALLOONaTHREE BUTTON MOUSEbCONSECUTIVE EQUALS SIGNSbDIMENSIONAL ANGLE
bDOT PUNCTUATIONbLEFTWARDS ARROWSbLINES CONVERGING LEFTdRIGHTbNETWORKED COMPUTERS
bPOINTED BLACK STARbRAYS ABOVEcBELOWcLEFTcRIGHTbRIGHTWARDS ARROWSbSPEECH BUBBLES
aTHREE-D BOTTOM-LIGHTED RIGHTWARDS ARROWHEADbLEFT-LIGHTED DOWNWARDS EQUILATERAL ARROWHEAD
bRIGHT-LIGHTED UPWARDS EQUILATERAL ARROWHEADbTOP-LIGHTED LEFTWARDS EQUILATERAL ARROWHEAD
cRIGHTWARDS ARROWHEADdEQUILATERAL ARROWHEADaTHREE-EM DASHaTHREE-PER-EM SPACEaTHUMBS DOWN SIGN
bUP SIGNaTHUNDER CLOUD AND RAINaTHUNDERSTORMaTIBETAN ASTROLOGICAL SIGN -KHYUD PAdSDONG TSHUGS
dSGRA GCAN -CHAR RTAGSbCANTILLATION SIGN CANG TE-UdHEAVY BEATdLIGHT BEATdSBUB -CHALbDIGIT EIGHT
cFIVEcFOURcHALF EIGHTdFIVEdFOURdNINEdONEdSEVENdSIXdTHREEdTWOdZEROcNINEcONEcSEVENcSIXcTHREEcTWO
cZERObKU RU KHAeBZHI MIG CANbLETTER -AcAcBAcBHAcCAcCHAcDAcDDAcDDHAcDHAcDZAcDZHAcFIXED-FORM RAcGA
cGHAcHAcJAcKAcKHAcKKAcKSSAcLAcMAcNAcNGAcNNAcNYAcPAcPHAcRAcRRAcSAcSHAcSSAcTAcTHAcTSAcTSHAcTTAcTTHA
cWAcYAcZAcZHAbLOGOTYPE SIGN CHAD RTAGSdLHAG RTAGSbMARK ANG KHANG GYASeGYONcBKA- SHOG GI MGO RGYAN
eYIG MGOcBSDUS RTAGScBSKA- SHOG GI MGO RGYANcBSKUR YIG MGOcCARET -DZUD RTAGS BZHI MIG CAN
fME LONG CANdYIG MGO PHUR SHAD MAcCHE MGOcCLOSING BRDA RNYING YIG MGO SGAB MAdYIG MGO SGAB MA
cDELIMITER TSHEG BSTARcGTER TSHEGdYIG MGO -UM GTER TSHEG MAgRNAM BCAD MAfTRUNCATED A
cGUG RTAGS GYASeGYONcHALANTAcINITIAL BRDA RNYING YIG MGO MDUN MAdYIG MGO MDUN MA
cINTERSYLLABIC TSHEGcLEADING MCHAN RTAGScMNYAM YIG GI MGO RGYANcNGAS BZUNG NYI ZLAeSGOR RTAGS
cNYIS SHADdTSHEGeSHADcPALUTAcRGYA GRAM SHADcRIN CHEN SPUNGS SHADcSBRUL SHADcSHAD
cTRAILING MCHAN RTAGScTSA -PHRUcTSHEG SHADcYIG MGO TSHEG SHAD MAbSIGN GRU CAN RGYINGSdMED RGYINGS
cINVERTED MCHU CANcLCE TSA CANcLCI RTAGScMAR TSHEScMCHU CANcNYI ZLA NAA DAcRDEL DKAR GCIGeGNYIS
eGSUMeRDEL NAGdNAG GCIGeGNYISeGSUMeRDEL DKARcRJES SU NGA ROcRNAM BCADcSNA LDANcYANG RTAGS
cYAR TSHESbSUBJOINED LETTER -AdAdBAdBHAdCAdCHAdDAdDDAdDDHAdDHAdDZAdDZHAdFIXED-FORM RAeWAeYAdGAdGHA
dHAdJAdKAdKHAdKSSAdLAdMAdNAdNGAdNNAdNYAdPAdPHAdRAdSAdSHAdSSAdTAdTHAdTSAdTSHAdTTAdTTHAdWAdYAdZAdZHA
cSIGN INVERTED MCHU CANdLCE TSA CANdMCHU CANbSYLLABLE OMbSYMBOL DRIL BUcNOR BUeBZHI -KHYIL
eGSUM -KHYILeNYIS -KHYILcPADMA GDANcPHUR PAcRDO RJEeRGYA GRAMbVOWEL SIGN AAdEdEEdIdIIdOdOO
dREVERSED IeIIdUdUUdVOCALIC LeLLeReRRaTICKETaTIE OVER INFINITYaTIFINAGH CONSONANT JOINER
bLETTER AHAGGAR YAZHcAYER YAGHcBERBER ACADEMY YAHeYAJcTAWELLEMET YAZcTUAREG YAGHdYAGNdYAHdYAKdYAKH
dYANGdYAQdYAZHcYAcYAAcYABcYABHcYACHcYADcYADDcYADDHcYADHcYAFcYAGcYAGHcYAGHHcYAHcYAHHcYAJcYAKcYAKH
cYAKHHcYALcYAMcYANcYAPcYAQcYARcYARRcYAScYASHcYASScYATcYATHcYATTcYAVcYAWcYAYcYAZcYAZHcYAZZcYEcYEY
cYIcYOcYUbMODIFIER LETTER LABIALIZATION MARKbSEPARATOR MARKaTIGERbFACEaTIGHT TRIFOLIATE SNOWFLAKE
aTILDEbOPERATORcABOVE LEFTWARDS ARROWdRIGHTWARDS ARROWcWITH DOT ABOVEdRISING DOTSbWITH DOT ABOVE
dBELOWcRING ABOVEaTIMER CLOCKaTIMES WITH LEFT HALF BLACKcRIGHT HALF BLACKaTINY
bTWO DOTS OVER ONE DOT PUNCTUATIONaTIRED FACEaTIRHUTA ABBREVIATION SIGNbANJIbDIGIT EIGHTcFIVEcFOUR
cNINEcONEcSEVENcSIXcTHREEcTWOcZERObGVANGbLETTER AcAAcAIcAUcBAcBHAcCAcCHAcDAcDDAcDDHAcDHAcEcGAcGHA
cHAcIcIIcJAcJHAcKAcKHAcLAcMAcNAcNGAcNNAcNYAcOcPAcPHAcRAcSAcSHAcSSAcTAcTHAcTTAcTTHAcUcUUcVA
cVOCALIC LdLLdRdRRcYAbOMbSIGN ANUSVARAcAVAGRAHAcCANDRABINDUcNUKTAcVIRAMAcVISARGAbVOWEL SIGN AAdAI
dAUdEdIdIIdOdSHORT EeOdUdUUdVOCALIC LeLLeReRRaTIRONIAN SIGN CAPITAL ETcETaTOILETaTOKYO TOWER
aTOMATOaTONGUEaTOOLBOXaTOOTHaTOOTHBRUSHaTOP ARC ANTICLOCKWISE ARROWeWITH PLUS
cCLOCKWISE ARROW WITH MINUSbCURLY BRACKETbHALF BLACK CIRCLEcINTEGRALcLEFT PARENTHESIS
cRIGHT PARENTHESIScSECTION SIGNbHATbLEFT CORNERcCROPcHALF BRACKETbPARENTHESISbRIGHT CORNERcCROP
cHALF BRACKETbSQUARE BRACKETbTORTOISE SHELL BRACKETbWITH UPWARDS ARROW ABOVE
aTORTOISE SHELL BRACKETED CJK UNIFIED IDEOGRAPH-4E09fIDEOGRAPH-4E8CfIDEOGRAPH-52DDfIDEOGRAPH-5B89
fIDEOGRAPH-6253fIDEOGRAPH-6557fIDEOGRAPH-672CfIDEOGRAPH-70B9fIDEOGRAPH-76D7dLATIN CAPITAL LETTER S
aTOTAL RUNOUTaTOTO LETTER AcAEcBAcBREATHY AEdEdEOdIdIUcCHAcDAcEcEOcGAcHAcIcIUcJAcKAcLAcMAcNAcNGAcO
cPAcRAcSAcTAcUcWAcYAbSIGN RISING TONEaTRACKBALLaTRACTORaTRADE MARK SIGNaTRAINaTRAMbCARaTRANSPLUTO
aTRANSVERSAL INTERSECTIONaTRIANGLE WITH DOT ABOVEcROUNDED CORNERScSERIFS AT BOTTOMcUNDERBAR
aTRIANGLE-HEADED RIGHTWARDS ARROWaTRIANGULAR BULLETbFLAG ON POSTbRULERaTRICOLONaTRIDENT EMBLEM
aTRIGRAM FOR EARTHcFIREcHEAVENcLAKEcMOUNTAINcTHUNDERcWATERcWINDaTRIPLE COLON OPERATORbDAGGER
bHORIZONTAL BAR WITH DOUBLE VERTICAL STROKEeTRIPLE VERTICAL STROKEbINTEGRALbNESTED GREATER-THAN
cLESS-THANbPLUSbPRIMEbSOLIDUS BINARY RELATIONbTILDEbVERTICAL BAR BINARY RELATIONdDELIMITER
dRIGHT TURNSTILEdWITH HORIZONTAL STROKEaTROLLaTROLLEYBUSaTROPHYaTROPICAL DRINKbFISHaTRUE
bLIGHT MOON ARTAaTRUMPETaTUGRIK SIGNaTULIPaTUMBLER GLASSaTURKEYaTURKISH LIRA SIGNaTURNED AMPERSAND
bANGLEbBLACK PENTAGONcSHOGI PIECEbCAPITAL FbCOMMAbDAGGERbDIGIT THREEcTWObGREEK SMALL LETTER IOTA
bNORTH EAST POINTING LEAFcWEST POINTING LEAFbNOT SIGNbOK HAND SIGNbSANS-SERIF CAPITAL GdLdY
bSEMICOLONbSMALL FbSOUTH EAST POINTING LEAFcWEST POINTING LEAFbWHITE SHOGI PIECEaTURTLE
aTWELVE POINTED BLACK STARaTWISTED RIGHTWARDS ARROWSaTWO ASTERISKS ALIGNED VERTICALLYbBUTTON MOUSE
bCONSECUTIVE EQUALS SIGNSbDOT LEADERcPUNCTUATIONbDOTS OVER ONE DOT PUNCTUATIONbHEARTS
bINTERSECTING LOGICAL ANDdORbJOINED SQUARESbLOGICAL AND OPERATORcOR OPERATORbMEN HOLDING HANDS
bSPEECH BUBBLESbWOMEN HOLDING HANDSaTWO-EM DASHaUGARITIC LETTER AINcALPAcBETAcDELTAcDHALcGAMLA
cGHAINcHOcHOTAcIcKAFcKHAcLAMDAcMEMcNUNcPUcQOPAcRASHAcSADEcSAMKAcSHINcSSUcTETcTHANNAcTOcUcWOcYOD
cZETAcZUbWORD DIVIDERaUMBRELLAbON GROUNDbWITH RAIN DROPSaUNAMUSED FACEaUNCERTAINTY SIGNaUNDERTIE
aUNDO SYMBOLaUNICORN FACEaUNIONbABOVE BAR ABOVE INTERSECTIONcINTERSECTION
bBESIDE AND JOINED WITH UNIONbWITH LOGICAL ORcMINUS SIGNcOVERBARaUNIT SEPARATORaUNITED SYMBOL
aUNIVERSAL RECYCLING SYMBOLaUNMARRIED PARTNERSHIP SYMBOLaUP ARROW THROUGH CIRCLEbARROWHEAD
cBETWEEN TWO HORIZONTAL BARScIN A RECTANGLE BOXbBARB LEFT DOWN BARB LEFT HARPOONfRIGHT HARPOON
cRIGHT DOWN BARB LEFT HARPOONfRIGHT HARPOONbDOWN ARROWdWITH BASEcBLACK ARROWcDOUBLE ARROW
cSANS-SERIF ARROWcTRIANGLE-HEADED ARROWcWHITE ARROWbFISH TAILbRIGHT DIAGONAL ELLIPSISbTACK
cWITH CIRCLE ABOVEaUP-POINTING AIRPLANEbMILITARY AIRPLANEbRED TRIANGLEbSMALL AIRPLANEcRED TRIANGLE
bTRIANGLE WITH LEFT HALF BLACKdRIGHT HALF BLACK
aUPPER AND LEFT AND LOWER TRIANGULAR THREE QUARTERS BLOCKcLOWER ONE EIGHTH BLOCK
dTRIANGULAR HALF BLOCKcRIGHT AND LOWER TRIANGULAR THREE QUARTERS BLOCKbBLADE SCISSORS
bFIVE EIGHTHS BLOCKbHALF BLOCKdAND LOWER HALF INVERSE MEDIUM SHADEcCIRCLE
cINVERSE MEDIUM SHADE AND LOWER HALF BLOCKdWHITE CIRCLEcMEDIUM SHADE
bLEFT BLOCK DIAGONAL LOWER CENTRE TO LOWER MIDDLE RIGHThUPPER MIDDLE RIGHTiRIGHT
fLEFT TO LOWER MIDDLE RIGHThUPPER CENTREiMIDDLE RIGHTfMIDDLE LEFT TO UPPER CENTREjMIDDLE RIGHT
jRIGHTeUPPER MIDDLE LEFT TO UPPER CENTREjRIGHTcCORNER WITH DOT
cOR LOWER RIGHT CURLY BRACKET SECTIONcQUADRANT CIRCULAR ARCcTO LOWER RIGHT FILLcTRIANGLE
cTRIANGULAR MEDIUM SHADEbONE EIGHTH BLOCKcQUARTER BLOCK
bRIGHT BLOCK DIAGONAL LOWER MIDDLE LEFT TO LOWER CENTREjRIGHTeUPPER CENTRE TO LOWER MIDDLE RIGHT
iRIGHThUPPER MIDDLE RIGHTfLEFT TO LOWER CENTREiMIDDLE RIGHThUPPER MIDDLE RIGHT
fMIDDLE LEFT TO LOWER CENTREjMIDDLE RIGHTjRIGHTcDROP-SHADOWED WHITE SQUARE
cOR LOWER LEFT CURLY BRACKET SECTIONcPENCILcQUADRANT CIRCULAR ARCcSHADOWED WHITE CIRCLEeSQUARE
cTO LOWER LEFT FILLcTRIANGLEcTRIANGULAR MEDIUM SHADEbSEVEN EIGHTHS BLOCKbTHREE EIGHTHS BLOCK
cQUARTERS BLOCKbTRIANGULAR ONE QUARTER BLOCKaUPSIDE-DOWN FACEaUPWARDS ANCORAbARROW
cAND RIGHT ONE EIGHTH BLOCKcFROM BARcLEFTWARDS OF DOWNWARDS ARROWcTO BARcWITH DOUBLE STROKE
dEQUILATERAL ARROWHEADdHORIZONTAL STROKEdLARGE TRIANGLE ARROWHEADdMEDIUM TRIANGLE ARROWHEAD
dNOTCHED TAILdSMALL EQUILATERAL ARROWHEADeTRIANGLE ARROWHEADdTIP LEFTWARDSeRIGHTWARDSbBLACK ARROW
cCIRCLED WHITE ARROWbCOMPRESSED ARROWbDASHED ARROWbDOUBLE ARROWbFINGER-POST ARROW
bHARPOON WITH BARB LEFT BESIDE DOWNWARDS HARPOON WITH BARB RIGHTgUPWARDS HARPOON WITH BARB RIGHT
fFROM BARfTO BAReLEFTWARDSeRIGHT FROM BARfTO BAReRIGHTWARDSbHEAVY ARROWcCOMPRESSED ARROW
bPAIRED ARROWSbQUADRUPLE ARROWbROCKETbSANS-SERIF ARROWbSQUARED ARROWbTRIANGLE ARROWHEAD
bTRIANGLE-HEADED ARROWdLEFTWARDS OF DOWNWARDS TRIANGLE-HEADED ARROWdTO BARdWITH BOLD SHAFT
eDOUBLE HORIZONTAL STROKEeHEAVY SHAFTeLONG TIP LEFTWARDSgRIGHTWARDSeMEDIUM SHAFTeNARROW SHAFT
eVERY HEAVY SHAFTcDASHED ARROWcPAIRED ARROWSbTRIPLE ARROWbTWO HEADED ARROW
bTWO-HEADED ARROW FROM SMALL CIRCLEdWITH TRIANGLE ARROWHEADSbWHITE ARROWdFROM BAR
fWITH HORIZONTAL BARdON PEDESTALfWITH HORIZONTAL BARgVERTICAL BARdWITHIN TRIANGLE ARROWHEAD
cDOUBLE ARROWeON PEDESTALaURANUSaUSaVAI COMMAbDIGIT EIGHTcFIVEcFOURcNINEcONEcSEVENcSIXcTHREEcTWO
cZERObFULL STOPbQUESTION MARKbSYLLABLE AcANcBAcBEcBEEcBHAcBHEcBHEEcBHIcBHOcBHOOcBHUcBIcBOcBOOcBU
cCAcCEcCEEcCIcCOcCOOcCUcDAcDEcDEEcDHAcDHEcDHEEcDHHAcDHHEcDHHEEcDHHIcDHHOcDHHOOcDHHUcDHIcDHOcDHOO
cDHUcDIcDOcDOOcDUcEcEEcEENcENcFAcFEcFEEcFIcFOcFOOcFUcGAcGBAcGBEcGBEEcGBENcGBIcGBOcGBONcGBOOcGBUcGE
cGEEcGENcGIcGOcGOOcGUcHAcHANcHEcHEEcHENcHIcHINcHOcHONcHOOcHUcHUNcIcINcJAcJEcJEEcJIcJOcJOOcJUcKA
cKANcKEcKEEcKIcKOcKOOcKPAcKPANcKPEcKPEEcKPENcKPIcKPOcKPOOcKPUcKUcLAcLEcLEEcLENGTHENERcLIcLOcLOOcLU
cMAcMBAcMBEcMBEEcMBIcMBOcMBOOcMBUcMEcMEEcMGBAcMGBEcMGBEEcMGBIcMGBOcMGBOOcMGBUcMIcMOcMOOcMUcNAcNDA
cNDEcNDEEcNDIcNDOcNDOLE DOdFAdKAdMAdSOOcNDOOcNDUcNEcNEEcNGcNGANcNGENcNGGAcNGGEcNGGEEcNGGENcNGGI
cNGGOcNGGOOcNGGUcNGONcNIcNJAcNJEcNJEEcNJIcNJOcNJOOcNJUcNOcNOOcNUcNYAcNYEcNYEEcNYIcNYOcNYOOcNYUcO
cONcOOcOONcPAcPEcPEEcPIcPOcPOOcPUcRAcREcREEcRIcROcROOcRUcSAcSEcSEEcSHAcSHEcSHEEcSHIcSHOcSHOOcSHU
cSIcSOcSOOcSUcTAcTEcTEEcTHAcTHEcTHEEcTHIcTHOcTHOOcTHUcTIcTOcTOOcTUcUcUNcVAcVEcVEEcVIcVOcVOOcVUcWA
cWANcWEcWEEcWEENcWENcWIcWINcWOcWONcWOOcWOONcWUcWUNcYAcYEcYEEcYIcYOcYOOcYUcZAcZEcZEEcZHAcZHEcZHEE
cZHIcZHOcZHOOcZHUcZIcZOcZOOcZUbSYMBOL BANGcDANGcDO-OcDOONGcFAAcFEENGcJONGcKEENGcKUNGcNIIcTAAcTING
cTONGaVAMPIREaVARIATION SELECTOR-1bSELECTOR-10bSELECTOR-100bSELECTOR-101bSELECTOR-102bSELECTOR-103
bSELECTOR-104bSELECTOR-105bSELECTOR-106bSELECTOR-107bSELECTOR-108bSELECTOR-109bSELECTOR-11
bSELECTOR-110bSELECTOR-111bSELECTOR-112bSELECTOR-113bSELECTOR-114bSELECTOR-115bSELECTOR-116
bSELECTOR-117bSELECTOR-118bSELECTOR-119bSELECTOR-12bSELECTOR-120bSELECTOR-121bSELECTOR-122
bSELECTOR-123bSELECTOR-124bSELECTOR-125bSELECTOR-126bSELECTOR-127bSELECTOR-128bSELECTOR-129
bSELECTOR-13bSELECTOR-130bSELECTOR-131bSELECTOR-132bSELECTOR-133bSELECTOR-134bSELECTOR-135
bSELECTOR-136bSELECTOR-137bSELECTOR-138bSELECTOR-139bSELECTOR-14bSELECTOR-140bSELECTOR-141
bSELECTOR-142bSELECTOR-143bSELECTOR-144bSELECTOR-145bSELECTOR-146bSELECTOR-147bSELECTOR-148
bSELECTOR-149bSELECTOR-15bSELECTOR-150bSELECTOR-151bSELECTOR-152bSELECTOR-153bSELECTOR-154
bSELECTOR-155bSELECTOR-156bSELECTOR-157bSELECTOR-158bSELECTOR-159bSELECTOR-16bSELECTOR-160
bSELECTOR-161bSELECTOR-162bSELECTOR-163bSELECTOR-164bSELECTOR-165bSELECTOR-166bSELECTOR-167
bSELECTOR-168bSELECTOR-169bSELECTOR-17bSELECTOR-170bSELECTOR-171bSELECTOR-172bSELECTOR-173
bSELECTOR-174bSELECTOR-175bSELECTOR-176bSELECTOR-177bSELECTOR-178bSELECTOR-179bSELECTOR-18
bSELECTOR-180bSELECTOR-181bSELECTOR-182bSELECTOR-183bSELECTOR-184bSELECTOR-185bSELECTOR-186
bSELECTOR-187bSELECTOR-188bSELECTOR-189bSELECTOR-19bSELECTOR-190bSELECTOR-191bSELECTOR-192
bSELECTOR-193bSELECTOR-194bSELECTOR-195bSELECTOR-196bSELECTOR-197bSELECTOR-198bSELECTOR-199
bSELECTOR-2bSELECTOR-20bSELECTOR-200bSELECTOR-201bSELECTOR-202bSELECTOR-203bSELECTOR-204
bSELECTOR-205bSELECTOR-206bSELECTOR-207bSELECTOR-208bSELECTOR-209bSELECTOR-21bSELECTOR-210
bSELECTOR-211bSELECTOR-212bSELECTOR-213bSELECTOR-214bSELECTOR-215bSELECTOR-216bSELECTOR-217
bSELECTOR-218bSELECTOR-219bSELECTOR-22bSELECTOR-220bSELECTOR-221bSELECTOR-222bSELECTOR-223
bSELECTOR-224bSELECTOR-225bSELECTOR-226bSELECTOR-227bSELECTOR-228bSELECTOR-229bSELECTOR-23
bSELECTOR-230bSELECTOR-231bSELECTOR-232bSELECTOR-233bSELECTOR-234bSELECTOR-235bSELECTOR-236
bSELECTOR-237bSELECTOR-238bSELECTOR-239bSELECTOR-24bSELECTOR-240bSELECTOR-241bSELECTOR-242
bSELECTOR-243bSELECTOR-244bSELECTOR-245bSELECTOR-246bSELECTOR-247bSELECTOR-248bSELECTOR-249
bSELECTOR-25bSELECTOR-250bSELECTOR-251bSELECTOR-252bSELECTOR-253bSELECTOR-254bSELECTOR-255
bSELECTOR-256bSELECTOR-26bSELECTOR-27bSELECTOR-28bSELECTOR-29bSELECTOR-3bSELECTOR-30bSELECTOR-31
bSELECTOR-32bSELECTOR-33bSELECTOR-34bSELECTOR-35bSELECTOR-36bSELECTOR-37bSELECTOR-38bSELECTOR-39
bSELECTOR-4bSELECTOR-40bSELECTOR-41bSELECTOR-42bSELECTOR-43bSELECTOR-44bSELECTOR-45bSELECTOR-46
bSELECTOR-47bSELECTOR-48bSELECTOR-49bSELECTOR-5bSELECTOR-50bSELECTOR-51bSELECTOR-52bSELECTOR-53
bSELECTOR-54bSELECTOR-55bSELECTOR-56bSELECTOR-57bSELECTOR-58bSELECTOR-59bSELECTOR-6bSELECTOR-60
bSELECTOR-61bSELECTOR-62bSELECTOR-63bSELECTOR-64bSELECTOR-65bSELECTOR-66bSELECTOR-67bSELECTOR-68
bSELECTOR-69bSELECTOR-7bSELECTOR-70bSELECTOR-71bSELECTOR-72bSELECTOR-73bSELECTOR-74bSELECTOR-75
bSELECTOR-76bSELECTOR-77bSELECTOR-78bSELECTOR-79bSELECTOR-8bSELECTOR-80bSELECTOR-81bSELECTOR-82
bSELECTOR-83bSELECTOR-84bSELECTOR-85bSELECTOR-86bSELECTOR-87bSELECTOR-88bSELECTOR-89bSELECTOR-9
bSELECTOR-90bSELECTOR-91bSELECTOR-92bSELECTOR-93bSELECTOR-94bSELECTOR-95bSELECTOR-96bSELECTOR-97
bSELECTOR-98bSELECTOR-99aVECTOR OR CROSS PRODUCTaVEDIC SIGN ANUSVARA ANTARGOMUKHAdBAHIRGOMUKHA
dUBHAYATO MUKHAdVAMAGOMUKHAeWITH TAILcARDHAVISARGAcATIKRAMAcDOUBLE ANUSVARA ANTARGOMUKHA
cHEXIFORM LONG ANUSVARAcJIHVAMULIYAcLONG ANUSVARAcNIHSHVASAcREVERSED VISARGA ANUDATTAeUDATTA
cROTATED ARDHAVISARGAcRTHANG LONG ANUSVARAcTIRYAKcUPADHMANIYAcVISARGA ANUDATTAeWITH TAILdSVARITA
dUDATTAeWITH TAILcYAJURVEDIC MIDLINE SVARITAbTONE ATHARVAVEDIC INDEPENDENT SVARITAcCANDRA ABOVE
dBELOWcDOT BELOWcDOUBLE RING ABOVEdSVARITAcKARSHANAcKATHAKA ANUDATTAcPRENKHA
cRIGVEDIC KASHMIRI INDEPENDENT SVARITAcRING ABOVEcSHARAcTHREE DOTS BELOWcTRIPLE SVARITA
cTWO DOTS BELOWcYAJURVEDIC AGGRAVATED INDEPENDENT SVARITAdINDEPENDENT SVARITA
dKATHAKA INDEPENDENT SVARITAgSCHROEDERaVERSICLEaVERTICAL BAR BESIDE RIGHT TRIANGLE
cDOUBLE LEFT TURNSTILEcTRIPLE RIGHT TURNSTILEcWITH HORIZONTAL STROKEbELLIPSISbFOUR DOTS
bIDEOGRAPHIC ITERATION MARKbKANA REPEAT MARKeLOWER HALFeUPPER HALFdWITH VOICED SOUND MARK
hUPPER HALFbLINEcEXTENSIONcWITH CIRCLE ABOVEeBELOWdMIDDLE DOTbMALE WITH STROKE SIGN
bONE EIGHTH BLOCK-2dBLOCK-3dBLOCK-4dBLOCK-5dBLOCK-6dBLOCK-7bSIX DOTSbTAB KEYbTABULATIONcSETbTILDE
bTRAFFIC LIGHTbZIGZAG LINEaVERY BOLD GREEK CROSSbHEAVY EIGHT POINTED BLACK STARdSPOKED ASTERISK
cFIVE SPOKED ASTERISKcGREEK CROSScREVERSE SOLIDUScSALTIREcSIX SPOKED ASTERISKcSOLIDUScWHITE CIRCLE
dSQUAREbMUCH GREATER-THANcLESS-THANaVESTAaVIBRATION MODEaVICTORY HANDaVIDEO CAMERAbGAME
aVIDEOCASSETTEaVIETNAMESE ALTERNATE READING MARK CAeNHAYaVIEWDATA SQUAREaVIOLINaVIRGO
aVITHKUQI CAPITAL LETTER AdBBEdBEdCEdCHEdDEdDHEdEdEIdFEdGAdHAdHHAdIdIJEdJEdKAdLAdLLAdMEdNEdNJEdO
dPEdQAdREdSEdSHEdTEdTHEdUdVEdXEdYdZEbSMALL LETTER AdBBEdBEdCEdCHEdDEdDHEdEdEIdFEdGAdHAdHHAdIdIJE
dJEdKAdLAdLLAdMEdNEdNJEdOdPEdQAdREdSEdSHEdTEdTHEdUdVEdXEdYdZEaVOIDED GREEK CROSSaVOLCANO
aVOLLEYBALLaVOLUME INTEGRALaVS1aVS10aVS100aVS101aVS102aVS103aVS104aVS105aVS106aVS107aVS108aVS109
aVS11aVS110aVS111aVS112aVS113aVS114aVS115aVS116aVS117aVS118aVS119aVS12aVS120aVS121aVS122aVS123
aVS124aVS125aVS126aVS127aVS128aVS129aVS13aVS130aVS131aVS132aVS133aVS134aVS135aVS136aVS137aVS138
aVS139aVS14aVS140aVS141aVS142aVS143aVS144aVS145aVS146aVS147aVS148aVS149aVS15aVS150aVS151aVS152
aVS153aVS154aVS155aVS156aVS157aVS158aVS159aVS16aVS160aVS161aVS162aVS163aVS164aVS165aVS166aVS167
aVS168aVS169aVS17aVS170aVS171aVS172aVS173aVS174aVS175aVS176aVS177aVS178aVS179aVS18aVS180aVS181
aVS182aVS183aVS184aVS185aVS186aVS187aVS188aVS189aVS19aVS190aVS191aVS192aVS193aVS194aVS195aVS196
aVS197aVS198aVS199aVS2aVS20aVS200aVS201aVS202aVS203aVS204aVS205aVS206aVS207aVS208aVS209aVS21aVS210
aVS211aVS212aVS213aVS214aVS215aVS216aVS217aVS218aVS219aVS22aVS220aVS221aVS222aVS223aVS224aVS225
aVS226aVS227aVS228aVS229aVS23aVS230aVS231aVS232aVS233aVS234aVS235aVS236aVS237aVS238aVS239aVS24
aVS240aVS241aVS242aVS243aVS244aVS245aVS246aVS247aVS248aVS249aVS25aVS250aVS251aVS252aVS253aVS254
aVS255aVS256aVS26aVS27aVS28aVS29aVS3aVS30aVS31aVS32aVS33aVS34aVS35aVS36aVS37aVS38aVS39aVS4aVS40
aVS41aVS42aVS43aVS44aVS45aVS46aVS47aVS48aVS49aVS5aVS50aVS51aVS52aVS53aVS54aVS55aVS56aVS57aVS58
aVS59aVS6aVS60aVS61aVS62aVS63aVS64aVS65aVS66aVS67aVS68aVS69aVS7aVS70aVS71aVS72aVS73aVS74aVS75aVS76
aVS77aVS78aVS79aVS8aVS80aVS81aVS82aVS83aVS84aVS85aVS86aVS87aVS88aVS89aVS9aVS90aVS91aVS92aVS93aVS94
aVS95aVS96aVS97aVS98aVS99aVTaVTSaVULCANUSaVULGAR FRACTION FIVE EIGHTHSdSIXTHScFOUR FIFTHS
cONE EIGHTHdFIFTHdHALFdNINTHdQUARTERdSEVENTHdSIXTHdTENTHdTHIRDcSEVEN EIGHTHScTHREE EIGHTHSdFIFTHS
dQUARTERScTWO FIFTHSdTHIRDScZERO THIRDSaWAFFLEaWANCHO DIGIT EIGHTcFIVEcFOURcNINEcONEcSEVENcSIX
cTHREEcTWOcZERObLETTER AcAAcAANcAANGcANGcAUcBAcCAcDAcEcENcFAcGAcHAcIcINGcJAcKAcKHAcLAcLLHAcMAcNA
cNGAcNYAcOcONcONGcPAcPHAcRAcSAcSHAcTAcTHAcTRAcTSAcUcUENcVAcWAcYAcYIHcZAbNGUN SIGNbTONE KOIcKOINI
cTUPcTUPNIaWANING CRESCENT MOON SYMBOLbGIBBOUS MOON SYMBOLaWARANG CITI CAPITAL LETTER AeAMeANGeAT
eBUeDAeEeENNeENYeGAeHAReHIYOeHOLOeHORReIIeKOeNGAAeNUNGeOeODDePUeSIIeSSUUeTTEeUCeUUeVIYOeWIeYAeYO
eYUeYUJcDIGIT EIGHTdFIVEdFOURdNINEdONEdSEVENdSIXdTHREEdTWOdZEROcNUMBER EIGHTYdFIFTYdFORTYdNINETY
dSEVENTYdSIXTYdTENdTHIRTYdTWENTYcOMcSMALL LETTER AeAMeANGeATeBUeDAeEeENNeENYeGAeHAReHIYOeHOLOeHORR
eIIeKOeNGAAeNUNGeOeODDePUeSIIeSSUUeTTEeUCeUUeVIYOeWIeYAeYOeYUeYUJaWARNING SIGNaWASTEBASKETaWATCH
aWATER BUFFALObCLOSETbPOLObWAVEaWATERMELONaWAVE ARROW POINTING DIRECTLY LEFTeRIGHTbDASH
aWAVING BLACK FLAGbHAND SIGNbWHITE FLAGaWAVY DASHbLINEbLOW LINEbOVERLINE
aWAXING CRESCENT MOON SYMBOLbGIBBOUS MOON SYMBOLaWEARY CAT FACEbFACEaWEDDING
aWEDGE-TAILED RIGHTWARDS ARROWaWEIERSTRASS ELLIPTIC FUNCTIONaWEIGHT LIFTERaWEST SYRIAC CROSSaWHALE
aWHEELbOF DHARMAaWHEELCHAIR SYMBOLaWHITE ARROW SHAFT WIDTH ONEeTWO THIRDSbBULLETbCHESS BISHOP
dROTATED NINETY DEGREESeTWO HUNDRED SEVENTY DEGREEScEQUIHOPPERdROTATED NINETY DEGREEScKING
dROTATED NINETY DEGREESeTWO HUNDRED SEVENTY DEGREEScKNIGHTdROTATED FORTY-FIVE DEGREES
eNINETY DEGREESeONE HUNDRED THIRTY-FIVE DEGREESeTHREE HUNDRED FIFTEEN DEGREES
eTWO HUNDRED SEVENTY DEGREESgTWENTY-FIVE DEGREEScKNIGHT-BISHOPcKNIGHT-QUEENcKNIGHT-ROOKcPAWN
dROTATED NINETY DEGREESeTWO HUNDRED SEVENTY DEGREEScQUEENdROTATED NINETY DEGREES
eTWO HUNDRED SEVENTY DEGREEScROOKdROTATED NINETY DEGREESeTWO HUNDRED SEVENTY DEGREEScTURNED BISHOP
dKINGdKNIGHTdPAWNdQUEENdROOKbCIRCLEcCONTAINING BLACK SMALL CIRCLEcWITH DOT RIGHTdDOWN ARROW
dLOWER LEFT QUADRANTeRIGHT QUADRANTdTWO DOTSdUPPER LEFT QUADRANTeRIGHT QUADRANTbCLUB SUIT
bCONCAVE-SIDED DIAMONDdWITH LEFTWARDS TICKeRIGHTWARDS TICKbDIAMONDcCONTAINING BLACK MEDIUM DIAMOND
eSMALL DIAMONDeVERY SMALL DIAMONDcIN SQUAREcSUITcWITH CENTRED DOTbDOWN POINTING BACKHAND INDEX
dINDEXdLEFT HAND INDEXbDOWN-POINTING SMALL TRIANGLEcTRIANGLEbDRAUGHTS KINGcMAN
bEXCLAMATION MARK ORNAMENTbFLAGcWITH HORIZONTAL MIDDLE BLACK STRIPEbFLORETTEbFLOWER
bFOUR POINTED CUSPdSTARbFROWNING FACEbHARD SHELL FLOPPY DISKbHEARTcSUITbHEAVY CHECK MARK
cSALTIRE WITH ROUNDED CORNERSbHEXAGONbHORIZONTAL ELLIPSEbHOURGLASSbLARGE SQUAREbLATIN CROSS
bLEFT LANE MERGEcPOINTING BACKHAND INDEXdINDEXbLEFT-POINTING POINTERcSMALL TRIANGLEcTRIANGLE
bLOZENGE CONTAINING BLACK SMALL LOZENGEbMEDIUM DIAMONDcLOZENGEcSMALL SQUAREcSQUAREcSTAR
bMOON SELENAbNIBbPARALLELOGRAMbPENNANTbPENTAGONbQUESTION MARK ORNAMENTbRECTANGLE
bRIGHT POINTING BACKHAND INDEXdINDEXbRIGHT-POINTING PENTAGONcPOINTERcSMALL TRIANGLEcTRIANGLE
bSCISSORSbSESAME DOTbSHOGI PIECEbSMALL LOZENGEcSQUAREcSTARbSMILING FACEbSPADE SUITbSQUAREcBUTTON
cCONTAINING BLACK MEDIUM SQUAREeSMALL SQUAREeVERY SMALL SQUAREcWITH CENTRE VERTICAL LINE
dLEFTWARDS TICKdLOWER LEFT QUADRANTeRIGHT QUADRANTdRIGHTWARDS TICKdROUNDED CORNERS
dUPPER LEFT QUADRANTeRIGHT QUADRANTdVERTICAL BISECTING LINEbSTARbSUNcBEHIND CLOUDeWITH RAIN
cWITH RAYSdSMALL CLOUDbTELEPHONEbTOUCHTONE TELEPHONEbTRAPEZIUM
bTRIANGLE CONTAINING SMALL WHITE TRIANGLEbTWO-WAY LEFT WAY TRAFFICbUP POINTING BACKHAND INDEX
dINDEXbUP-POINTING CHEVRONcSMALL TRIANGLEcTRIANGLEdWITH DOTbVERTICAL BARcELLIPSEcRECTANGLE
bVERY SMALL SQUAREaWHITE-FEATHERED RIGHTWARDS ARROWaWIDE-HEADED DOWNWARDS BARB ARROW
cHEAVY BARB ARROWcLIGHT BARB ARROWcMEDIUM BARB ARROWcVERY HEAVY BARB ARROWbLEFTWARDS BARB ARROW
cHEAVY BARB ARROWcLIGHT BARB ARROWcMEDIUM BARB ARROWcVERY HEAVY BARB ARROWbNORTH EAST BARB ARROW
dHEAVY BARB ARROWdLIGHT BARB ARROWdMEDIUM BARB ARROWdVERY HEAVY BARB ARROWcWEST BARB ARROW
dHEAVY BARB ARROWdLIGHT BARB ARROWdMEDIUM BARB ARROWdVERY HEAVY BARB ARROWbRIGHTWARDS BARB ARROW
cHEAVY BARB ARROWcLIGHT BARB ARROWcMEDIUM BARB ARROWcVERY HEAVY BARB ARROWbSOUTH EAST BARB ARROW
dHEAVY BARB ARROWdLIGHT BARB ARROWdMEDIUM BARB ARROWdVERY HEAVY BARB ARROWcWEST BARB ARROW
dHEAVY BARB ARROWdLIGHT BARB ARROWdMEDIUM BARB ARROWdVERY HEAVY BARB ARROWbUPWARDS BARB ARROW
cHEAVY BARB ARROWcLIGHT BARB ARROWcMEDIUM BARB ARROWcVERY HEAVY BARB ARROWaWIGGLY VERTICAL LINE
aWILTED FLOWERaWIND BLOWING FACEbCHIMEaWINDOWaWINE GLASSaWINKING FACEaWIRED KEYBOARDaWJaWOLF FACE
aWOMANbWITH BUNNY EARSaWOMANS BOOTSbCLOTHESbHATbSANDALaWOMENS SYMBOLaWON SIGNaWOODaWORD JOINER
bSEPARATOR MIDDLE DOTaWORLD MAPaWORMaWORRIED FACEaWRAPPED PRESENTaWREATH PRODUCTaWRENCHaWRESTLERS
aWRITING HANDaX IN A RECTANGLE BOXaX-RAYaXIANGQI BLACK CANNONcCHARIOTcELEPHANTcGENERALcHORSE
cMANDARINcSOLDIERbRED CANNONcCHARIOTcELEPHANTcGENERALcHORSEcMANDARINcSOLDIERaXORaYAWNING FACE
aYELLOW HEARTaYEN SIGNaYEZIDI COMBINING HAMZA MARKcMADDA MARKbHYPHENATION MARKbLETTER BEcCHHIM
cCHIMcCIMcDADcDALcELIFcETcEWcEYNcFAcGAFcHAYcHHAcJAcKAFcKHAFcLAMdWITH DOT ABOVEcMIMcNUNcOWcPEcPHE
cQAFcRAcRHAcSADcSEcSHINcSINcTAcTHEcUMcVAdALTERNATE FORMcWAWcXAcXHEYNcYOTdWITH CIRCUMFLEX ABOVEcZA
cZALcZEaYI RADICAL BBUTcBURcCHEcCIPcCUOPcCYcCYPcCYTcDDURcDUcGAcGEPcGGOPcGGUOcGOTcHMOcHXITcHXOP
cHXUOcJJIEcJJUTcJJYcJOcKEcKITcLIcLIEcLYRcMIcMOPcNBIEcNYIPcNYOPcNZUPcOPcPUTcPYTcQOTcSHATcSHOPcSHUR
cSHYcSSIcTATcTUcVEPcVURcWOcYITcYOcZAcZOTcZUPcZURcZZIETbSYLLABLE AcAPcATcAXcBAcBAPcBATcBAXcBBAcBBAP
cBBATcBBAXcBBEcBBEPcBBEXcBBIcBBIEcBBIEPcBBIETcBBIEXcBBIPcBBITcBBIXcBBOcBBOPcBBOTcBBOXcBBUcBBUO
cBBUOPcBBUOXcBBUPcBBURcBBURXcBBUTcBBUXcBBYcBBYPcBBYTcBBYXcBEcBEPcBEXcBIcBIEcBIEPcBIETcBIEXcBIPcBIT
cBIXcBOcBOPcBOTcBOXcBUcBUOcBUOPcBUOXcBUPcBURcBURXcBUTcBUXcBYcBYPcBYRcBYRXcBYTcBYXcCAcCAPcCATcCAX
cCEcCEPcCEXcCHAcCHAPcCHATcCHAXcCHEcCHEPcCHETcCHEXcCHOcCHOPcCHOTcCHOXcCHUcCHUOcCHUOPcCHUOTcCHUOX
cCHUPcCHURcCHURXcCHUXcCHYcCHYPcCHYRcCHYRXcCHYTcCHYXcCIcCIEcCIEPcCIETcCIEXcCIPcCITcCIXcCOcCOPcCOT
cCOXcCUcCUOcCUOPcCUOXcCUPcCURcCURXcCUTcCUXcCYcCYPcCYRcCYRXcCYTcCYXcDAcDAPcDATcDAXcDDAcDDAPcDDAT
cDDAXcDDEcDDEPcDDEXcDDIcDDIEcDDIEPcDDIEXcDDIPcDDITcDDIXcDDOcDDOPcDDOTcDDOXcDDUcDDUOcDDUOPcDDUOX
cDDUPcDDURcDDURXcDDUTcDDUXcDEcDEPcDEXcDIcDIEcDIEPcDIEXcDIPcDITcDIXcDOcDOPcDOTcDOXcDUcDUOcDUOXcDUP
cDURcDURXcDUTcDUXcEcEXcFAcFAPcFATcFAXcFIcFIPcFITcFIXcFOcFOPcFOXcFUcFUPcFURcFURXcFUTcFUXcFYcFYPcFYT
cFYXcGAcGAPcGATcGAXcGEcGEPcGETcGEXcGGAcGGAPcGGATcGGAXcGGEcGGEPcGGETcGGEXcGGIcGGIEcGGIEPcGGIEXcGGIT
cGGIXcGGOcGGOPcGGOTcGGOXcGGUcGGUOcGGUOPcGGUOTcGGUOXcGGUPcGGURcGGURXcGGUTcGGUXcGIcGIEcGIEPcGIET
cGIEXcGIPcGITcGIXcGOcGOPcGOTcGOXcGUcGUOcGUOPcGUOTcGUOXcGUPcGURcGURXcGUTcGUXcHAcHAPcHATcHAXcHEcHEP
cHEXcHIEcHIEXcHITcHLAcHLAPcHLATcHLAXcHLEcHLEPcHLEXcHLIcHLIEcHLIEPcHLIEXcHLIPcHLITcHLIXcHLOcHLOP
cHLOXcHLUcHLUOcHLUOPcHLUOXcHLUPcHLURcHLURXcHLUTcHLUXcHLYcHLYPcHLYRcHLYRXcHLYTcHLYXcHMAcHMAPcHMAT
cHMAXcHMIcHMIEcHMIEPcHMIEXcHMIPcHMITcHMIXcHMOcHMOPcHMOTcHMOXcHMUcHMUOcHMUOPcHMUOXcHMUPcHMURcHMURX
cHMUTcHMUXcHMYcHMYPcHMYRcHMYRXcHMYXcHNAcHNAPcHNATcHNAXcHNEcHNEPcHNEXcHNIcHNIEcHNIEPcHNIETcHNIEX
cHNIPcHNITcHNIXcHNOPcHNOTcHNOXcHNUOcHNUOXcHNUTcHOcHOPcHOTcHOXcHUOcHUOPcHUOTcHUOXcHXAcHXAPcHXAT
cHXAXcHXEcHXEPcHXEXcHXIcHXIEcHXIEPcHXIETcHXIEXcHXIPcHXITcHXIXcHXOcHXOPcHXOTcHXOXcHXUOcHXUOPcHXUOT
cHXUOXcIcIEcIEPcIETcIEXcIPcITcITERATION MARKcIXcJIcJIEcJIEPcJIETcJIEXcJIPcJITcJIXcJJIcJJIEcJJIEP
cJJIETcJJIEXcJJIPcJJITcJJIXcJJOcJJOPcJJOTcJJOXcJJUcJJUOcJJUOPcJJUOXcJJUPcJJURcJJURXcJJUTcJJUXcJJY
cJJYPcJJYTcJJYXcJOcJOPcJOTcJOXcJUcJUOcJUOPcJUOTcJUOXcJUPcJURcJURXcJUTcJUXcJYcJYPcJYRcJYRXcJYTcJYX
cKAcKAPcKATcKAXcKEcKEPcKETcKEXcKIcKIEcKIEPcKIEXcKIPcKITcKIXcKOcKOPcKOTcKOXcKUcKUOcKUOPcKUOXcKUP
cKURcKURXcKUTcKUXcLAcLAPcLATcLAXcLEcLEPcLEXcLIcLIEcLIEPcLIETcLIEXcLIPcLITcLIXcLOcLOPcLOTcLOXcLU
cLUOcLUOPcLUOTcLUOXcLUPcLURcLURXcLUTcLUXcLYcLYPcLYRcLYRXcLYTcLYXcMAcMAPcMATcMAXcMEcMEXcMGAcMGAP
cMGATcMGAXcMGEcMGEPcMGEXcMGIEcMGIEXcMGOcMGOPcMGOTcMGOXcMGUcMGUOcMGUOPcMGUOXcMGUPcMGURcMGURXcMGUT
cMGUXcMIcMIEcMIEPcMIEXcMIPcMITcMIXcMOcMOPcMOTcMOXcMUcMUOcMUOPcMUOTcMUOXcMUPcMURcMURXcMUTcMUXcMY
cMYPcMYTcMYXcNAcNAPcNAXcNBAcNBAPcNBATcNBAXcNBIcNBIEcNBIEPcNBIEXcNBIPcNBITcNBIXcNBOcNBOPcNBOTcNBOX
cNBUcNBUPcNBURcNBURXcNBUTcNBUXcNBYcNBYPcNBYRcNBYRXcNBYTcNBYXcNDAcNDAPcNDATcNDAXcNDEcNDEPcNDEXcNDI
cNDIEcNDIEXcNDIPcNDITcNDIXcNDOcNDOPcNDOTcNDOXcNDUcNDUPcNDURcNDURXcNDUTcNDUXcNEcNEPcNEXcNGAcNGAP
cNGATcNGAXcNGEcNGEPcNGEXcNGIEcNGIEPcNGIEXcNGOcNGOPcNGOTcNGOXcNGUOcNGUOTcNGUOXcNIcNIEcNIEPcNIEXcNIP
cNITcNIXcNJIcNJIEcNJIEPcNJIETcNJIEXcNJIPcNJITcNJIXcNJOcNJOPcNJOTcNJOXcNJUcNJUOcNJUOXcNJUPcNJUR
cNJURXcNJUXcNJYcNJYPcNJYRcNJYRXcNJYTcNJYXcNOcNOPcNOTcNOXcNRAcNRAPcNRATcNRAXcNREcNREPcNRETcNREXcNRO
cNROPcNROXcNRUcNRUPcNRURcNRURXcNRUTcNRUXcNRYcNRYPcNRYRcNRYRXcNRYTcNRYXcNUcNUOcNUOPcNUOXcNUPcNUR
cNURXcNUTcNUXcNYIcNYIEcNYIEPcNYIETcNYIEXcNYIPcNYITcNYIXcNYOcNYOPcNYOTcNYOXcNYUcNYUOcNYUOPcNYUOX
cNYUPcNYUTcNYUXcNZAcNZAPcNZATcNZAXcNZEcNZEXcNZIcNZIEcNZIEPcNZIEXcNZIPcNZITcNZIXcNZOPcNZOXcNZUcNZUO
cNZUOXcNZUPcNZURcNZURXcNZUXcNZYcNZYPcNZYRcNZYRXcNZYTcNZYXcOcOPcOTcOXcPAcPAPcPATcPAXcPIcPIEcPIEP
cPIEXcPIPcPITcPIXcPOcPOPcPOTcPOXcPUcPUOcPUOPcPUOXcPUPcPURcPURXcPUTcPUXcPYcPYPcPYRcPYRXcPYTcPYXcQI
cQIEcQIEPcQIETcQIEXcQIPcQITcQIXcQOcQOPcQOTcQOXcQUcQUOcQUOPcQUOTcQUOXcQUPcQURcQURXcQUTcQUXcQYcQYP
cQYRcQYRXcQYTcQYXcRAcRAPcRATcRAXcREcREPcREXcROcROPcROTcROXcRRAcRRAXcRREcRREPcRRETcRREXcRROcRROP
cRROTcRROXcRRUcRRUOcRRUOXcRRUPcRRURcRRURXcRRUTcRRUXcRRYcRRYPcRRYRcRRYRXcRRYTcRRYXcRUcRUOcRUOPcRUOX
cRUPcRURcRURXcRUTcRUXcRYcRYPcRYRcRYRXcRYTcRYXcSAcSAPcSATcSAXcSEcSEPcSEXcSHAcSHAPcSHATcSHAXcSHE
cSHEPcSHETcSHEXcSHOcSHOPcSHOTcSHOXcSHUcSHUOcSHUOPcSHUOXcSHUPcSHURcSHURXcSHUTcSHUXcSHYcSHYPcSHYR
cSHYRXcSHYTcSHYXcSIcSIEcSIEPcSIEXcSIPcSITcSIXcSOcSOPcSOTcSOXcSSAcSSAPcSSATcSSAXcSSEcSSEPcSSEXcSSI
cSSIEcSSIEPcSSIEXcSSIPcSSITcSSIXcSSOcSSOPcSSOTcSSOXcSSUcSSUPcSSUTcSSUXcSSYcSSYPcSSYRcSSYRXcSSYT
cSSYXcSUcSUOcSUOPcSUOXcSUPcSURcSURXcSUTcSUXcSYcSYPcSYRcSYRXcSYTcSYXcTAcTAPcTATcTAXcTEcTEPcTEXcTI
cTIEcTIEPcTIEXcTIPcTITcTIXcTOcTOPcTOTcTOXcTUcTUOcTUOPcTUOTcTUOXcTUPcTURcTURXcTUTcTUXcUOcUOPcUOXcVA
cVAPcVATcVAXcVEPcVEXcVIcVIEcVIEPcVIETcVIEXcVIPcVITcVIXcVOcVOPcVOTcVOXcVUcVUPcVURcVURXcVUTcVUXcVY
cVYPcVYRcVYRXcVYTcVYXcWAcWAPcWATcWAXcWEcWEPcWEXcWOcWOPcWOXcWUcWUOcWUOPcWUOXcXIcXIEcXIEPcXIETcXIEX
cXIPcXITcXIXcXOcXOPcXOTcXOXcXUOcXUOXcXYcXYPcXYRcXYRXcXYTcXYXcYIcYIEcYIEPcYIETcYIEXcYIPcYITcYIXcYO
cYOPcYOTcYOXcYUcYUOcYUOPcYUOTcYUOXcYUPcYURcYURXcYUTcYUXcYYcYYPcYYRcYYRXcYYTcYYXcZAcZAPcZATcZAXcZE
cZEPcZEXcZHAcZHAPcZHATcZHAXcZHEcZHEPcZHETcZHEXcZHOcZHOPcZHOTcZHOXcZHUcZHUOcZHUOPcZHUOXcZHUPcZHUR
cZHURXcZHUTcZHUXcZHYcZHYPcZHYRcZHYRXcZHYTcZHYXcZIcZIEcZIEPcZIEXcZIPcZITcZIXcZOcZOPcZOTcZOXcZUcZUO
cZUOPcZUOXcZUPcZURcZURXcZUTcZUXcZYcZYPcZYRcZYRXcZYTcZYXcZZAcZZAPcZZATcZZAXcZZEcZZEPcZZEXcZZIcZZIE
cZZIEPcZZIETcZZIEXcZZIPcZZITcZZIXcZZOcZZOPcZZOXcZZUcZZUPcZZURcZZURXcZZUXcZZYcZZYPcZZYRcZZYRXcZZYT
cZZYXaYIN YANGaYO-YOaZ NOTATION BAG MEMBERSHIPcDOMAIN ANTIRESTRICTIONcLEFT BINDING BRACKET
dIMAGE BRACKETcRANGE ANTIRESTRICTIONcRELATIONAL COMPOSITIONcRIGHT BINDING BRACKETdIMAGE BRACKET
cSCHEMA COMPOSITIONdPIPINGdPROJECTIONcSPOTcTYPE COLON
aZANABAZAR SQUARE CLOSING DOUBLE-LINED HEAD MARKdHEAD MARKcCLUSTER-FINAL LETTER LAeRAeVAeYA
cCLUSTER-INITIAL LETTER RAcFINAL CONSONANT MARKcINITIAL DOUBLE-LINED HEAD MARKdHEAD MARKcLETTER -A
dAdBAdBHAdCAdCHAdDAdDDAdDDHAdDHAdDZAdDZHAdGAdGHAdHAdJAdKAdKHAdKSSAdLAdMAdNAdNGAdNNAdNYAdPAdPHAdRA
dSAdSHAdSSAdTAdTHAdTSAdTSHAdTTAdTTHAdVAdYAdZAdZHAcMARK DOUBLE SHADdLONG TSHEGdSHADdTSHEG
cSIGN ANUSVARAdCANDRA WITH ORNAMENTdCANDRABINDUeWITH ORNAMENTdVIRAMAdVISARGAcSUBJOINER
cVOWEL LENGTH MARKdSIGN AIeAUeEeIeOeOEeREVERSED IeUeUEaZEBRA FACEaZERO WIDTH JOINERcNO-BREAK SPACE
cNON-JOINERcSPACEaZEUSaZIPPER-MOUTH FACEaZNAMENNY COMBINING ATTACHING VERTICAL OMET
cLOWER TONAL RANGE INDICATORcMARK BORZAYAdCHASHKAePOLNAYAdCURVED OMETdDEMESTVENNY ZADERZHKA
dDVOETOCHIEdGORAZDO NIZKO ON LEFTgRIGHTfS KRYZHEM ON LEFTiRIGHTeVYSOKOdKACHKAdKRYZHeON LEFT
dKUPNAYAdLOMKAdMALO POVYSHE ON LEFTgRIGHTfS KHOKHLOM ON LEFTiRIGHTgKRYZHEMfSTRANNOdNIZKO ON LEFT
fRIGHTeS KRYZHEM ON LEFThRIGHTdOBLACHKOdONdOTSECHKAdPODCHASHIEeWITH VERTICAL STROKEdPODVERTKA
dPOVYSHE ON LEFTfRIGHTeS KHOKHLOM ON LEFThRIGHTfKRYZHEMeSTRANNOdRAVNOdRAZSEKAdSKOBA
dSOROCHYA NOZHKAdSREDNE ON LEFTfRIGHTdSTRANNO MALO POVYSHEdTIKHAYAdTOCHKAdTSATA ON LEFTfRIGHT
eS KRYZHEMdUDARKAdVYSOKO ON LEFTfRIGHTeS KHOKHLOM ON LEFThRIGHTfKRYZHEMdZADERZHKAdZELOdZEVOK
cTONAL RANGE MARK MRACHNOfSVETLOfTRESVETLObNEUME CHASHKAcCHELYUSTKAcDEMESTVENNY KLYUCHcDERBITSA
cDOUBLE ZAPYATAYAcDUDAcDVA V CHELNUcFITAcGOLUBCHIK BORZYdMRACHNYdSVETLYdTIKHYdTRESVETLYcKHAMILO
cKLYUCHcKOBYLAcKRYUKdTIKHYcKRYZHcKUFISMAcMECHIKdKLYUCHENEPOSTOYANNYdKLYUCHEPOVODNYdKLYUCHEVOY
dPOVODNYcNEMKAcOBLAKOcOSOKAdKLYUCHEVAYA NEPOSTOYANNAYAeSVETLAYAdKRYUKOVAYA SVETLAYAdSVETLAYA
dTRESVETLAYAcPALKAcPARAKLITcPAUKcPEREVODKAdNEPOSTOYANNAYAcPODCHASHIEcPOLKULIZMY
cREVERSED CHELYUSTKAcROGcSKAMEYTSA DVOECHELNAYA KLYUCHEVAYAeNEPOSTOYANNAYAePROSTAYAeSVETLAYA
dKLYUCHENEPOSTOYANNAYAdKLYUCHEVAYA SVETLAYAeTIKHAYAdMRACHNAYAdSVETLAYAdTIKHAYAdTRESVETLAYA
cSLOZHITIEdS KRYZHEMeZAPYATOYdZAKRYTOEcSTATYAdNEPOSTOYANNAYAdS DVUMYA ZAPYATYMIeKRYZHEMfI ZAPYATOY
eROGOMeZAPYATOYfI KRYZHEMgPODCHASHIEMdZAKRYTAYAeS ZAPYATOYcSTOPITSAdS OCHKOMdWITH SOROCHYA NOZHKA
cSTRELA DVOECHELNAYAeKLYUCHEVAYAdDVOECHELNOKRYZHEVAYAdDVOECHELNOPOVODNAYAeKLYUCHEVAYAdGROMNAYA
eWITH SINGLE ZAPYATAYAdGROMOKRYZHEVAYAePOVODNAYAdGROMOPOVODNAYAeWITH DOUBLE ZAPYATAYA
fSINGLE ZAPYATAYAdKLYUCHENEPOSTOYANNAYAdKLYUCHEPOVODNAYAdKRYUKOVAYAeGROMNAYAfWITH SINGLE ZAPYATAYA
eGROMOKRYZHEVAYAfPOVODNAYAeGROMOPOVODNAYAfWITH DOUBLE ZAPYATAYAgSINGLE ZAPYATAYAePOVODNAYAeTRYASKA
dKRYZHEVAYAdMRACHNOTIKHAYAdNEPOSTOYANNAYAdPOLUPOVODNAYAdPOVODNAYAdPROSTAYAdTIKHAYA PUTNAYA
dTRYASOGLASNAYAdTRYASOPOVODNAYAdTRYASOSTRELNAYAcVRAKHIYA KLYUCHEVAYA MRACHNAYAePROSTAYAeSVETLAYA
eTRESVETLAYAdMRACHNAYAdPROSTAYAdSVETLAYAdTRESVETLAYAcZANOZHEKcZAPYATAYAcZMEYTSA
bPRIZNAK MODIFIER DIRECTION FLIPdKRYZHdLEVEL-2dLEVEL-3dROGaZOMBIEaZWJaZWNBSPaZWNJaZWSP"

end Registrar
