import LineCalc.Text.CharName.Basic

/-!
Names of characters from A to B.
-/
namespace LineCalc.Text

def namesAToB : NameTable := ⟨"
  aABACUS fC_CURRENT iCORDION fUNT_OF iK aNOWLEDGE jTIVATE_ARABIC_FORM_SHAPING tSYMMETRIC_SWAPPING
  zUTE_ACCENT fNGLE kDDRESSED_TO_THE_SUBJECT wHESIVE_BANDAGE oI_SHAKTI iLAM_ALIF_LENGTHENER
  pCAPITAL_LETTER_ALIF eBA bHE dCHI dDAALI eHA dE bFA cGA bBE dHA cI bJIIM eKAF cHA cPO dLAAM eMIIM
  eNHA cUN cYA dO bPE cQAAF eRA cSHA cINNYIIYHE kTU cU bVA cWAW dYA bHE dZAL rONSONANT_MODIFIER
  sDIGIT_EIGHT fFIVE dOUR eNINE eONE dSEVEN eIX dTHREE eWO dZERO kGEMINATE_CONSONANT_MODIFIER
  uION_MARK pHAMZA fINITIAL_EXCLAMATION_MARK qQUESTION_MARK vNASALIZATION_MARK qUKTA
  fSMALL_LETTER_ALIF eBA bHE dCHI dDAALI eHA dE bFA cGA bBE dHA cI bJIIM eKAF cHA cPO dLAAM eMIIM
  eNHA cUN cYA dO bPE cQAAF eRA cSHA cINNYIIYHE kTU cU bVA cWAW dYA bHE dZAL qVOWEL_LENGTHENER
  uMETOS eISSION_TICKETS pULT eEGEAN_CHECK_MARK kDRY_MEASURE_FIRST_SUBUNIT
  zLIQUID_MEASURE_FIRST_SUBUNIT zdMEASURE_SECOND_SUBUNIT oTHIRD_SUBUNIT vNUMBER_EIGHT a_HUNDRED
  hTHOUSAND jY a_THOUSAND pFIFTY a_THOUSAND mVE a_HUNDRED hTHOUSAND mORTY a_THOUSAND mUR a_HUNDRED
  hTHOUSAND nNINE a_HUNDRED hTHOUSAND jTY a_THOUSAND pONE a_HUNDRED hTHOUSAND mSEVEN a_HUNDRED
  hTHOUSAND jTY a_THOUSAND pIX a_HUNDRED hTHOUSAND jTY a_THOUSAND oTEN a_THOUSAND lHIRTY a_THOUSAND
  nREE a_HUNDRED hTHOUSAND nWENTY a_THOUSAND nO a_HUNDRED hTHOUSAND tWEIGHT_BASE_UNIT jFIRST_SUBUNIT
  mOURTH_SUBUNIT oSECOND_SUBUNIT oTHIRD_SUBUNIT tORD_SEPARATOR_DOT dLINE yRIAL_TRAMWAY nFGHANI_SIGN
  lHOM_CONSONANT_SIGN_MEDIAL_LA bIGATING_RA lRA yDIGIT_EIGHT fFIVE dOUR eNINE eONE dSEVEN eIX dTHREE
  eWO dZERO kLETTER_A aLTERNATE_BA cGA cTA mBA bHA dCA bHA dDA bDA bHA dHA dGA bHA dHA cJA bHA dKA
  bHA dLA bLA dMA cNA bGA cNA cYA dPA bHA dRA cSA cTA bHA cTA bHA lNUMBER_TEN cWENTY nSIGN_KILLER
  gRULAI fSECTION gMALL_SECTION rYMBOL_VI jVOWEL_SIGN_A aA bI bM bW cE bI aI cO bU aU rIRPLANE
  a_ARRIVING iDEPARTURE rKTIESELSKAB lLARM_CLOCK jCHEMICAL_SYMBOL_FOR_AIR cLEMBIC fKALI a-2 gUM
  dMALGAM gNTIMONY_ORE lQUA_REGIA a-2 hVITAE a-2 iFORTIS jRSENIC gSHES eURIPIGMENT lBATH_OF_MARY
  eVAPOURS oISMUTH_ORE kLACK_SULFUR lORAX a-2 b3 gRICK fCADUCEUS gLX cPUT_MORTUUM mINNABAR
  hOPPER_ANTIMONIATE lORE jROCUS_OF_COPPER a-2 iIRON mUCIBLE a-2 b3 b4 b5 kDAY-NIGHT iISSOLVE a-2
  hTILL hEARTH fFIRE eGOLD dUM dHALF_DRAM eOUNCE jORSE_DUNG iUR eIRON_ORE a-2 g-COPPER_ORE pLEAD_ORE
  hODESTONE jMARCASITE iERCURY_SUBLIMATE a-2 b3 sONTH fNIGHT dTRE fOIL dPHILOSOPHERS_SULFUR
  sOT_ASHES hWDER aED_BRICK nRECIPITATE kURIFY eTREFACTION mQUICK_LIME hNTESSENCE mREALGAR a-2
  hGULUS a_OF_ANTIMONY a-2 kIRON i-2 b3 b4 hTORT fOCK_SALT a-2 lSAL-AMMONIAC jT a_OF_ANTIMONY
  iCOPPER_ANTIMONIATE zCEPTER_OF_JOVE oILVER fOAP dPIRIT fTARRED_TRIDENT nRATUM_SUPER_STRATUM a-2
  wUBLIMATE_OF_ANTIMONY iCOPPER gSALT_OF_ANTIMONY iCOPPER tION jLFUR gTARTAR a-2 hIN_ORE eCTURE
  hRIDENT gUTTY fURINE fVERDIGRIS iINEGAR a_OF_ANTIMONY m-2 b3 hTRIOL a-2 jWATER dX xEF_SYMBOL iMBIC
  eRT dIEN_MONSTER lL_AROUND-PROFILE oEQUAL_TO kM aOST_EQUAL_OR_EQUAL_TO lTO
  a_WITH_CIRCUMFLEX_ACCENT zlTERNATE_ONE-WAY_LEFT_WAY_TRAFFIC zbIVE_KEY_SYMBOL
  vMALGAMATION_OR_COPRODUCT xBULANCE hERICAN_FOOTBALL pPERSAND gHORA gNATOLIAN_HIEROGLYPH_A001 b2 b3
  b4 b5 b6 b7 b8 b9 c10 aA c1 b2 b3 b4 b5 b6 b7 b8 b9 c20 b1 b2 b3 b4 b5 b6 aA c7 b8 b9 c30 b1 b2 b3
  b4 b5 b6 b7 b8 b9 aA d40 b1 aA c2 b3 b4 b5 aA c6 aA bB c7 b8 b9 c50 b1 b2 b3 b4 b5 b6 b7 b8 b9 c60
  b1 b2 b3 b4 b5 b6 aA bB bC c7 b8 b9 c70 b1 b2 b3 b4 b5 b6 b7 b8 b9 c80 b1 b2 b3 b4 b5 b6 b7 b8 b9
  c90 b1 b2 b3 b4 b5 b6 b7 aA c8 aA c9 d100 aA c1 aA c2 aA c3 b4 aA bB bC c5 aA bB c6 b7 aA bB bC c8
  b9 c10 aA bB c1 b2 b3 b4 b5 aA c6 b7 b8 b9 c20 b1 b2 b3 b4 b5 aA c6 b7 b8 b9 c30 b1 b2 b3 b4 b5 aA
  c6 b7 b8 b9 c40 b1 b2 b3 b4 b5 b6 b7 b8 b9 c50 b1 b2 b3 b4 b5 b6 b7 b8 b9 c60 b1 b2 b3 b4 b5 b6 b7
  b8 b9 c70 b1 b2 b3 b4 b5 b6 b7 b8 b9 c80 b1 b2 b3 b4 b5 b6 b7 b8 b9 c90 b1 b2 b3 b4 b5 b6 b7 b8 b9
  d200 b1 b2 aA bB c3 b4 b5 b6 b7 aA c8 b9 aA d10 b1 b2 b3 b4 b5 aA c6 aA c7 b8 b9 c20 b1 b2 b3 b4
  b5 b6 b7 aA c8 b9 c30 b1 b2 b3 b4 b5 b6 b7 b8 b9 c40 b1 b2 b3 b4 b5 b6 b7 b8 b9 c50 b1 b2 b3 b4 b5
  b6 b7 b8 b9 c60 b1 b2 b3 b4 b5 b6 b7 aA c8 b9 c70 b1 b2 b3 b4 b5 b6 b7 b8 b9 c80 b1 b2 b3 b4 b5 b6
  b7 b8 b9 aA d90 b1 b2 b3 b4 aA c5 b6 b7 b8 b9 aA e300 b1 b2 b3 b4 b5 b6 b7 b8 b9 aA d10 b1 b2 b3
  b4 b5 b6 b7 b8 b9 c20 b1 b2 b3 b4 b5 b6 b7 b8 b9 aA d30 b1 b2A bB bC c3 b4 b5 b6 aA bB bC c7 b8 b9
  c40 b1 b2 b3 b4 b5 b6 b7 b8 b9 c50 b1 b2 b3 b4 b5 b6 b7 b8 b9 aA d60 b1 b2 b3 b4 aA c5 b6 b7 b8 aA
  c9 c70 b1 aA c2 b3 b4 b5 b6 b7 b8 b9 c80 b1 aA c2 b3_RA_OR_RI jA c4 b5 b6 aA c7 b8 b9 c90 b1 b2
  b3_EIGHT h4 b5 b6 b7 b8 b9 d400 b1 b2 b3 b4 b5 b6 b7 b8 b9 c10_BEGIN_LOGOGRAM_MARK
  uA_END_LOGOGRAM_MARK u1 b2 b3 b4 b5 b6 b7 b8 b9 c20 b1 b2 b3 b4 b5 b6 b7 b8 b9 c30 b1 b2 b3 b4 b5
  b6 b7 b8 b9 c40 b1 b2 b3 b4 b5 b6 b7 b8 b9 c50 aA c1 b2 b3 b4 b5 b6 b7 aA c8 b9 c60 b1 b2 b3 b4 b5
  b6 b7 b8 b9 c70 b1 b2 b3 b4 b5 b6 b7 b8 b9 c80 b1 b2 b3 b4 b5 b6 b7 b8 b9 c90 b1 b2 b3 b4 b5 b6 b7
  d501 b2 b3 b4 b5 b6 b7 b8 b9 c10 b1 b2 b3 b4 b5 b6 b7 b8 b9 c20 b1 b2 b3 b4 b5 b6 b7 b8 b9 c30
  uMICAL_HEART oCHOR eD_WITH_DOT kGER_SYMBOL jLE a_WITH_S_INSIDE iUNDERBAR qRY_FACE hSTROM_SIGN
  kUISHED_FACE mKH cT aENNA_WITH_BARS oICLOCKWISE_CLOSED_CIRCLE_ARROW sONTOUR_INTEGRAL
  qDOWNWARDS_AND_UPWARDS_OPEN_CIRCLE_ARROWS zpGAPPED_CIRCLE_ARROW tINTEGRATION lOPEN_CIRCLE_ARROW
  rTOP_SEMICIRCLE_ARROW tRIANGLE-HEADED_BOTTOM_U-SHAPED_ARROW vLEFT_U-SHAPED_ARROW
  tOPEN_CIRCLE_ARROW rRIGHT_U-SHAPED_ARROW uTOP_U-SHAPED_ARROW zwPC bL_FUNCTIONAL_SYMBOL_ALPHA
  a_UNDERBAR oBACKSLASH_BAR nCIRCLE_BACKSLASH jDIAERESIS jJOT dSTAR cILE fUNDERBAR oOMMA_BAR
  jDEL_DIAERESIS jSTILE fTILDE gTA_STILE fUNDERBAR nIAMOND_UNDERBAR pOWN_CARET_TILDE lSHOE_STILE
  kTACK_JOT dUNDERBAR oWARDS_VANE oEPSILON_UNDERBAR qGREATER-THAN_DIAERESIS wI-BEAM fOTA a_UNDERBAR
  nJOT_DIAERESIS jUNDERBAR mLEFT_SHOE_STILE lWARDS_VANE oOMEGA a_UNDERBAR oQUAD a_BACKSLASH jCIRCLE
  fOLON fDEL aTA eIAMOND fVIDE fOWN_CARET gWARDS_ARROW pEQUAL fGREATER-THAN mJOT dLEFTWARDS_ARROW
  nSS-THAN jNOT_EQUAL jQUESTION iRIGHTWARDS_ARROW qSLASH fUP_CARET gWARDS_ARROW qOTE_QUAD eUNDERBAR
  oRHO cIGHTWARDS_VANE pSEMICOLON_UNDERBAR rLASH_BAR iQUISH_QUAD kTAR_DIAERESIS mILE_TILDE
  lTILDE_DIAERESIS pUP_CARET_TILDE lSHOE_JOT iTACK_DIAERESIS jJOT dOVERBAR nWARDS_VANE mZILDE zOLLON
  eSTROPHE iPLICATION_PROGRAM_COMMAND yROACHES_THE_LIMIT pXIMATELY_BUT_NOT_ACTUALLY_EQUAL_TO
  zEQUAL_OR_EQUAL_TO lTO a_OR_THE_IMAGE_OF zmQUARIUS hRABIC_BASELINE_ROUND_DOT sCOMMA eURLY_DAMMA
  aTAN iFATHA aTAN iKASRA aTAN oDAMMA a_ISOLATED_FORM nMEDIAL_FORM lWITH_DOT jTAN a_ISOLATED_FORM
  uTE_SEPARATOR nECIMAL_SEPARATOR qISPUTED_END_OF_AYAH tOUBLE_RIGHT_ARROWHEAD_ABOVE a_WITH_DOT
  zgD_MADDA nEMPTY_CENTRE_HIGH_STOP jLOW_STOP uND_OF_AYAH eTEXT_MARK qFATHA a_ISOLATED_FORM
  nMEDIAL_FORM lWITH_DOT_ABOVE jRING eTWO_DOTS oTAN a_ISOLATED_FORM vIVE_POINTED_STAR
  qOOTNOTE_MARKER oULL_STOP jHALF_MADDA_OVER_MADDA tMZA_ABOVE fBELOW lINVERTED_DAMMA oKASRA
  a_ISOLATED_FORM nMEDIAL_FORM lWITH_DOT_BELOW pTAN a_ISOLATED_FORM wLARGE_CIRCLE_BELOW
  mROUND_DOT_ABOVE fBELOW fINSIDE_CIRCLE_BELOW zjEFT_ARROWHEAD_ABOVE fBELOW sTTER_AE bFRICAN_FEH
  dNOON eQAF a_WITH_THREE_DOTS_ABOVE zhIN a_FINAL_FORM kINITIAL_FORM lSOLATED_FORM nMEDIAL_FORM
  lWITH_THREE_DOTS_ABOVE fBELOW fPOINTING_DOWNWARDS_ABOVE zjWO_DOTS_ABOVE fVERTICALLY_ABOVE ziLEF
  a_FINAL_FORM kISOLATED_FORM nMAKSURA a_FINAL_FORM kISOLATED_FORM vWASLA a_FINAL_FORM
  kISOLATED_FORM sITH_ATTACHED_BOTTOM_RIGHT_KASRA a_AND_DOT_ABOVE jLEFT_RING zhFATHA fKASRA
  fLEFT_HAMZA fROUND_DOT oRIGHT_HAMZA fROUND_DOT oOUND_DOT_ABOVE fBELOW pTOP_RIGHT_FATHA
  a_AND_DOT_ABOVE jLEFT_RING znDOT_ABOVE jEXTENDED_ARABIC-INDIC_DIGIT_THREE_ABOVE kWO_ABOVE
  zmHAMZA_ABOVE a_FINAL_FORM kISOLATED_FORM tBELOW a_FINAL_FORM kISOLATED_FORM zLEFT_MIDDLE_STROKE
  sMADDA_ABOVE a_FINAL_FORM kISOLATED_FORM zRIGHT_MIDDLE_STROKE a_AND_DOT_ABOVE jLEFT_RING
  ziWAVY_HAMZA_ABOVE fBELOW zbBEEH a_FINAL_FORM kINITIAL_FORM lSOLATED_FORM nMEDIAL_FORM oH
  a_FINAL_FORM kINITIAL_FORM lSOLATED_FORM nMEDIAL_FORM lWITH_DOT_BELOW_AND_THREE_DOTS_ABOVE
  zfHAMZA_ABOVE lINVERTED_SMALL_V_BELOW wSMALL_MEEM_ABOVE kV a_BELOW nTHREE_DOTS_HORIZONTALLY_BELOW
  sPOINTING_UPWARDS_BELOW a_AND_TWO_DOTS_ABOVE zzbWO_DOTS_BELOW_AND_DOT_ABOVE zjEH a_FINAL_FORM
  kINITIAL_FORM lSOLATED_FORM nMEDIAL_FORM rDAD a_FINAL_FORM kINITIAL_FORM lSOLATED_FORM
  nMEDIAL_FORM lWITH_DOT_BELOW qHAL a_FINAL_FORM kISOLATED_FORM rL a_FINAL_FORM kISOLATED_FORM
  nWITH_DOT_BELOW a_AND_SMALL_TAH xFOUR_DOTS_ABOVE pINVERTED_SMALL_V_BELOW nV kRING
  eTHREE_DOTS_ABOVE_DOWNWARDS pBELOW pWO_DOTS_VERTICALLY_BELOW_AND_SMALL_TAH zwDAHAL a_FINAL_FORM
  kISOLATED_FORM rL a_FINAL_FORM kISOLATED_FORM rOTLESS_BEH dFEH dQAF kUL a_FINAL_FORM
  kISOLATED_FORM qYEH a_FINAL_FORM kINITIAL_FORM lSOLATED_FORM nMEDIAL_FORM qE a_FINAL_FORM
  kINITIAL_FORM lSOLATED_FORM nMEDIAL_FORM nFARSI_YEH a_FINAL_FORM kINITIAL_FORM lSOLATED_FORM
  nMEDIAL_FORM lWITH_EXTENDED_ARABIC-INDIC_DIGIT_FOUR_BELOW kTHREE_ABOVE kWO_ABOVE zmINVERTED_V
  kTHREE_DOTS_ABOVE pWO_DOTS_ABOVE zdEH a_FINAL_FORM kINITIAL_FORM lSOLATED_FORM nMEDIAL_FORM
  lWITH_DOT_BELOW a_AND_THREE_DOTS_ABOVE zbMOVED_BELOW pTHREE_DOTS_BELOW fPOINTING_UPWARDS_BELOW
  zhWO_DOTS_BELOW xGAF a_FINAL_FORM kINITIAL_FORM lSOLATED_FORM nMEDIAL_FORM lWITH_INVERTED_STROKE
  pRING eTHREE_DOTS_ABOVE pWO_DOTS_BELOW wHAIN a_FINAL_FORM kINITIAL_FORM lSOLATED_FORM nMEDIAL_FORM
  lWITH_DOT_BELOW jTHREE_DOTS_ABOVE zbRAF dUEH a_FINAL_FORM kINITIAL_FORM lSOLATED_FORM nMEDIAL_FORM
  qHAH a_FINAL_FORM kINITIAL_FORM lSOLATED_FORM nMEDIAL_FORM
  lWITH_EXTENDED_ARABIC-INDIC_DIGIT_FOUR_BELOW znHAMZA_ABOVE lINVERTED_SMALL_V_BELOW
  wSMALL_ARABIC_LETTER_TAH_ABOVE eND_TWO_DOTS mBELOW zeTHREE_DOTS_ABOVE fPOINTING_UPWARDS_BELOW
  zhWO_DOTS_ABOVE fVERTICAL_ABOVE zfMZA a_ISOLATED_FORM sEH a_DOACHASHMEE a_FINAL_FORM kINITIAL_FORM
  lSOLATED_FORM nMEDIAL_FORM xFINAL_FORM kGOAL a_FINAL_FORM kINITIAL_FORM lSOLATED_FORM nMEDIAL_FORM
  lWITH_HAMZA_ABOVE vINITIAL_FORM lSOLATED_FORM nMEDIAL_FORM lWITH_INVERTED_V kYEH_ABOVE
  a_FINAL_FORM kISOLATED_FORM zgIGH_HAMZA a_ALEF eWAW dYEH oJEEM a_FINAL_FORM kINITIAL_FORM
  lSOLATED_FORM nMEDIAL_FORM lWITH_THREE_DOTS_ABOVE fBELOW pWO_DOTS_ABOVE wH a_FINAL_FORM
  kISOLATED_FORM rKAF a_FINAL_FORM kINITIAL_FORM lSOLATED_FORM nMEDIAL_FORM lWITH_DOT_ABOVE fBELOW
  jRING eTHREE_DOTS_BELOW pWO_DOTS_ABOVE vSHMIRI_YEH lEHEH a_FINAL_FORM kINITIAL_FORM lSOLATED_FORM
  nMEDIAL_FORM lWITH_DOT_ABOVE jSMALL_V hTHREE_DOTS_ABOVE fBELOW fPOINTING_UPWARDS_BELOW
  zhWO_DOTS_ABOVE fVERTICALLY_BELOW zkHAH a_FINAL_FORM kINITIAL_FORM lSOLATED_FORM nMEDIAL_FORM
  pIRGHIZ_OE a_FINAL_FORM kISOLATED_FORM qYU a_FINAL_FORM kISOLATED_FORM yLAM a_FINAL_FORM
  kINITIAL_FORM lSOLATED_FORM nMEDIAL_FORM lWITH_BAR dDOT_ABOVE hUBLE_BAR
  kSMALL_ARABIC_LETTER_TAH_ABOVE xV hTHREE_DOTS_ABOVE fBELOW yOW_ALEF iMARK dEEM a_FINAL_FORM
  kINITIAL_FORM lSOLATED_FORM nMEDIAL_FORM lWITH_DOT_ABOVE fBELOW jTHREE_DOTS_ABOVE zbNG
  a_FINAL_FORM kINITIAL_FORM lSOLATED_FORM nMEDIAL_FORM mOEH a_FINAL_FORM kINITIAL_FORM
  lSOLATED_FORM nMEDIAL_FORM qOON a_FINAL_FORM kGHUNNA a_FINAL_FORM kISOLATED_FORM uINITIAL_FORM
  lSOLATED_FORM nMEDIAL_FORM lWITH_DOT_BELOW jINVERTED_SMALL_V qRING eSMALL_TAH dV hTHREE_DOTS_ABOVE
  pWO_DOTS_BELOW xYEH a_FINAL_FORM kINITIAL_FORM lSOLATED_FORM nMEDIAL_FORM qOE a_FINAL_FORM
  kISOLATED_FORM qPEH a_FINAL_FORM kINITIAL_FORM lSOLATED_FORM nMEDIAL_FORM lWITH_SMALL_MEEM_ABOVE
  kV nEH a_FINAL_FORM kINITIAL_FORM lSOLATED_FORM nMEDIAL_FORM rQAF a_FINAL_FORM kINITIAL_FORM
  lSOLATED_FORM nMEDIAL_FORM lWITH_DOT_ABOVE fBELOW a_AND_NO_DOTS_ABOVE zcTHREE_DOTS_ABOVE zREH
  a_FINAL_FORM kISOLATED_FORM nWITH_DOT_BELOW a_AND_DOT_ABOVE xFOUR_DOTS_ABOVE pHAMZA_ABOVE
  lINVERTED_V kLOOP eRING eSMALL_ARABIC_LETTER_TAH_AND_TWO_DOTS zfNOON_ABOVE kV a_BELOW mTROKE
  gTWO_DOTS_ABOVE fVERTICALLY_ABOVE ziNOON a_FINAL_FORM kINITIAL_FORM lSOLATED_FORM nMEDIAL_FORM
  qOHINGYA_YEH lREH a_FINAL_FORM kISOLATED_FORM sSAD a_FINAL_FORM kINITIAL_FORM lSOLATED_FORM
  nMEDIAL_FORM lWITH_THREE_DOTS_ABOVE fBELOW pWO_DOTS_BELOW wEEN a_FINAL_FORM kINITIAL_FORM
  lSOLATED_FORM nMEDIAL_FORM lWITH_DOT_BELOW_AND_DOT_ABOVE xEXTENDED_ARABIC-INDIC_DIGIT_FOUR_ABOVE
  znFOUR_DOTS_ABOVE pINVERTED_V kSMALL_ARABIC_LETTER_TAH_AND_TWO_DOTS zlTHREE_DOTS_BELOW
  a_AND_THREE_DOTS_ABOVE zlWO_DOTS_VERTICALLY_ABOVE zjHEEN a_FINAL_FORM kINITIAL_FORM lSOLATED_FORM
  nMEDIAL_FORM lWITH_DOT_BELOW tTRAIGHT_WAW lUPERSCRIPT_ALEF pWASH_KAF jTAH a_FINAL_FORM
  kINITIAL_FORM lSOLATED_FORM nMEDIAL_FORM lWITH_DOT_BELOW jTHREE_DOTS_ABOVE fBELOW pWO_DOTS_ABOVE
  wCHEH a_FINAL_FORM kINITIAL_FORM lSOLATED_FORM nMEDIAL_FORM lWITH_DOT_ABOVE jSMALL_V nEH
  a_FINAL_FORM kINITIAL_FORM lSOLATED_FORM nMEDIAL_FORM sEH a_FINAL_FORM kINITIAL_FORM lSOLATED_FORM
  nMARBUTA a_FINAL_FORM kGOAL eISOLATED_FORM uEDIAL_FORM lWITH_RING eSMALL_TEH_ABOVE jV
  hTHREE_DOTS_ABOVE_DOWNWARDS zhEH a_FINAL_FORM kINITIAL_FORM lSOLATED_FORM nMEDIAL_FORM qHAL
  a_FINAL_FORM kISOLATED_FORM qEH a_FINAL_FORM kINITIAL_FORM lSOLATED_FORM nMEDIAL_FORM oIN_YEH hTEH
  a_FINAL_FORM kINITIAL_FORM lSOLATED_FORM nMEDIAL_FORM lWITH_SMALL_V nEH a_FINAL_FORM kINITIAL_FORM
  lSOLATED_FORM nMEDIAL_FORM sU a_FINAL_FORM kISOLATED_FORM nWITH_HAMZA_ABOVE a_ISOLATED_FORM
  zgIGHUR_KAZAKH_KIRGHIZ_ALEF_MAKSURA_INITIAL_FORM mMEDIAL_FORM zvVE a_FINAL_FORM kISOLATED_FORM oH
  a_FINAL_FORM kINITIAL_FORM lSOLATED_FORM nMEDIAL_FORM pWAW a_FINAL_FORM kISOLATED_FORM
  nWITH_DOT_ABOVE fWITHIN kEXTENDED_ARABIC-INDIC_DIGIT_THREE_ABOVE kWO_ABOVE zmHAMZA_ABOVE
  a_FINAL_FORM kISOLATED_FORM zRING eTWO_DOTS_ABOVE xYEH a_BARREE a_FINAL_FORM kISOLATED_FORM
  nWITH_EXTENDED_ARABIC-INDIC_DIGIT_THREE_ABOVE kWO_ABOVE zmHAMZA_ABOVE a_FINAL_FORM kISOLATED_FORM
  zmFINAL_FORM kINITIAL_FORM lSOLATED_FORM nMEDIAL_FORM lWITH_HAMZA_ABOVE a_FINAL_FORM kINITIAL_FORM
  lSOLATED_FORM nMEDIAL_FORM xSMALL_V hTAIL dHREE_DOTS_BELOW pWO_DOTS_BELOW_AND_DOT_ABOVE
  jHAMZA_ABOVE lSMALL_NOON_ABOVE zsU a_FINAL_FORM kISOLATED_FORM qZAH a_FINAL_FORM kINITIAL_FORM
  lSOLATED_FORM nMEDIAL_FORM nIN a_FINAL_FORM kISOLATED_FORM nWITH_INVERTED_V_ABOVE
  zhIGATURE_AIN_WITH_ALEF_MAKSURA_FINAL_FORM kISOLATED_FORM zbJEEM_INITIAL_FORM lSOLATED_FORM
  nWITH_MEEM_FINAL_FORM kINITIAL_FORM zcMEEM_INITIAL_FORM lSOLATED_FORM
  nWITH_ALEF_MAKSURA_FINAL_FORM xMEEM_FINAL_FORM kINITIAL_FORM rYEH_FINAL_FORM yYEH_FINAL_FORM
  kISOLATED_FORM zKBAR_ISOLATED_FORM sLAYHAA_AS-SALAAM mE_ISOLATED_FORM pI_AS-SALAAM bTU_WAS-SALAAM
  wM_AS-SALAAM kAA_AS-SALAAM rEF_MAKSURA_WITH_SUPERSCRIPT_ALEF_FINAL_FORM kISOLATED_FORM
  zsWITH_FATHATAN_FINAL_FORM kISOLATED_FORM zfLAH_ISOLATED_FORM sZZA_WA_JALL
  mBEH_WITH_ALEF_MAKSURA_FINAL_FORM kISOLATED_FORM zbHAH_INITIAL_FORM lSOLATED_FORM
  nWITH_YEH_FINAL_FORM wEH_INITIAL_FORM mMEDIAL_FORM pJEEM_INITIAL_FORM lSOLATED_FORM
  sKHAH_INITIAL_FORM lSOLATED_FORM nWITH_YEH_FINAL_FORM yMEEM_FINAL_FORM kINITIAL_FORM lSOLATED_FORM
  nMEDIAL_FORM qNOON_FINAL_FORM pREH_FINAL_FORM oYEH_FINAL_FORM kISOLATED_FORM rZAIN_FINAL_FORM
  xISMILLAH_AR-RAHMAN_AR-RAHEEM zeDAD_WITH_ALEF_MAKSURA_FINAL_FORM kISOLATED_FORM zbHAH_INITIAL_FORM
  lSOLATED_FORM nWITH_ALEF_MAKSURA_FINAL_FORM xYEH_FINAL_FORM xJEEM_INITIAL_FORM lSOLATED_FORM
  sKHAH_INITIAL_FORM lSOLATED_FORM nWITH_MEEM_FINAL_FORM kINITIAL_FORM zcMEEM_INITIAL_FORM
  lSOLATED_FORM sREH_FINAL_FORM kISOLATED_FORM rYEH_FINAL_FORM kISOLATED_FORM
  zbFEH_WITH_ALEF_MAKSURA_FINAL_FORM kISOLATED_FORM zbHAH_INITIAL_FORM lSOLATED_FORM
  rJEEM_INITIAL_FORM lSOLATED_FORM sKHAH_INITIAL_FORM lSOLATED_FORM nWITH_MEEM_FINAL_FORM
  kINITIAL_FORM zcMEEM_INITIAL_FORM lSOLATED_FORM nWITH_YEH_FINAL_FORM yYEH_FINAL_FORM
  kISOLATED_FORM zbGHAIN_WITH_ALEF_MAKSURA_FINAL_FORM kISOLATED_FORM zbJEEM_INITIAL_FORM
  lSOLATED_FORM sMEEM_INITIAL_FORM lSOLATED_FORM nWITH_ALEF_MAKSURA_FINAL_FORM xMEEM_FINAL_FORM
  pYEH_FINAL_FORM yYEH_FINAL_FORM kISOLATED_FORM zdHAH_WITH_ALEF_MAKSURA_FINAL_FORM kISOLATED_FORM
  zbJEEM_INITIAL_FORM lSOLATED_FORM nWITH_YEH_FINAL_FORM yMEEM_INITIAL_FORM lSOLATED_FORM
  nWITH_ALEF_MAKSURA_FINAL_FORM xYEH_FINAL_FORM yYEH_FINAL_FORM kISOLATED_FORM
  zEH_WITH_ALEF_MAKSURA_ISOLATED_FORM zbJEEM_INITIAL_FORM lSOLATED_FORM sMEEM_INITIAL_FORM
  lSOLATED_FORM nWITH_JEEM_INITIAL_FORM rMEEM_INITIAL_FORM zcSUPERSCRIPT_ALEF_INITIAL_FORM
  zeYEH_ISOLATED_FORM zbJALLAJALALOUHOU oEEM_WITH_ALEF_MAKSURA_FINAL_FORM kISOLATED_FORM
  zbHAH_INITIAL_FORM lSOLATED_FORM nWITH_ALEF_MAKSURA_FINAL_FORM xYEH_FINAL_FORM xMEEM_INITIAL_FORM
  lSOLATED_FORM nWITH_ALEF_MAKSURA_FINAL_FORM xHAH_FINAL_FORM kINITIAL_FORM qYEH_FINAL_FORM
  yYEH_FINAL_FORM kISOLATED_FORM zcKAF_WITH_ALEF_FINAL_FORM kISOLATED_FORM nMAKSURA_FINAL_FORM
  kISOLATED_FORM zbHAH_INITIAL_FORM lSOLATED_FORM rJEEM_INITIAL_FORM lSOLATED_FORM
  sKHAH_INITIAL_FORM lSOLATED_FORM sLAM_FINAL_FORM kINITIAL_FORM lSOLATED_FORM nMEDIAL_FORM
  pMEEM_FINAL_FORM kINITIAL_FORM lSOLATED_FORM nMEDIAL_FORM lWITH_MEEM_FINAL_FORM kINITIAL_FORM
  rYEH_FINAL_FORM yYEH_FINAL_FORM kISOLATED_FORM zHAH_WITH_ALEF_MAKSURA_FINAL_FORM kISOLATED_FORM
  zbHAH_ISOLATED_FORM rJEEM_INITIAL_FORM lSOLATED_FORM sMEEM_INITIAL_FORM lSOLATED_FORM
  sYEH_FINAL_FORM kISOLATED_FORM zcLAM_WITH_ALEF_FINAL_FORM kISOLATED_FORM nMAKSURA_FINAL_FORM
  kISOLATED_FORM vWITH_HAMZA_ABOVE_FINAL_FORM kISOLATED_FORM tBELOW_FINAL_FORM kISOLATED_FORM
  zMADDA_ABOVE_FINAL_FORM kISOLATED_FORM zkHAH_INITIAL_FORM lSOLATED_FORM
  nWITH_ALEF_MAKSURA_FINAL_FORM xMEEM_FINAL_FORM kINITIAL_FORM rYEH_FINAL_FORM wEH_INITIAL_FORM
  qJEEM_INITIAL_FORM lSOLATED_FORM nWITH_JEEM_FINAL_FORM kINITIAL_FORM rMEEM_FINAL_FORM
  kINITIAL_FORM rYEH_FINAL_FORM yKHAH_INITIAL_FORM lSOLATED_FORM nWITH_MEEM_FINAL_FORM kINITIAL_FORM
  zcMEEM_FINAL_FORM kINITIAL_FORM lSOLATED_FORM nMEDIAL_FORM lWITH_HAH_FINAL_FORM kINITIAL_FORM
  qYEH_FINAL_FORM yYEH_FINAL_FORM kISOLATED_FORM zbMEEM_WITH_ALEF_FINAL_FORM kMAKSURA_ISOLATED_FORM
  zbHAH_INITIAL_FORM lSOLATED_FORM nWITH_JEEM_INITIAL_FORM rMEEM_INITIAL_FORM rYEH_FINAL_FORM
  xJEEM_INITIAL_FORM lSOLATED_FORM nWITH_HAH_INITIAL_FORM qKHAH_INITIAL_FORM rMEEM_INITIAL_FORM
  rYEH_FINAL_FORM yKHAH_INITIAL_FORM lSOLATED_FORM nWITH_JEEM_INITIAL_FORM rMEEM_INITIAL_FORM
  rYEH_FINAL_FORM yMEEM_FINAL_FORM kINITIAL_FORM lSOLATED_FORM nWITH_YEH_FINAL_FORM
  yYEH_ISOLATED_FORM zbOHAMMAD_ISOLATED_FORM wNOON_WITH_ALEF_MAKSURA_FINAL_FORM kISOLATED_FORM
  zbHAH_INITIAL_FORM lSOLATED_FORM nWITH_ALEF_MAKSURA_FINAL_FORM xMEEM_INITIAL_FORM rYEH_FINAL_FORM
  wEH_INITIAL_FORM mMEDIAL_FORM pJEEM_INITIAL_FORM lSOLATED_FORM nWITH_ALEF_MAKSURA_FINAL_FORM
  xHAH_FINAL_FORM kINITIAL_FORM qMEEM_FINAL_FORM kINITIAL_FORM rYEH_FINAL_FORM yKHAH_INITIAL_FORM
  lSOLATED_FORM sMEEM_FINAL_FORM kINITIAL_FORM lSOLATED_FORM nMEDIAL_FORM
  lWITH_ALEF_MAKSURA_FINAL_FORM xYEH_FINAL_FORM yNOON_FINAL_FORM pREH_FINAL_FORM oYEH_FINAL_FORM
  kISOLATED_FORM rZAIN_FINAL_FORM zQAF_WITH_ALEF_MAKSURA_FINAL_FORM kISOLATED_FORM
  zbHAH_INITIAL_FORM lSOLATED_FORM rMEEM_INITIAL_FORM lSOLATED_FORM nWITH_HAH_FINAL_FORM
  kINITIAL_FORM qMEEM_FINAL_FORM pYEH_FINAL_FORM yYEH_FINAL_FORM kISOLATED_FORM
  yLA_USED_AS_KORANIC_STOP_SIGN_ISOLATED_FORM zsUDDISA_SIRRAH oRADI_ALLAAHU_ANH aAA cUM aAA dNNA
  sHIMAHU_ALLAAH hM_ALLAAH oSOUL_ISOLATED_FORM tEH_WITH_SUPERSCRIPT_ALEF_ISOLATED_FORM
  zoSAD_WITH_ALEF_MAKSURA_FINAL_FORM kISOLATED_FORM zbHAH_INITIAL_FORM lSOLATED_FORM
  nWITH_HAH_FINAL_FORM kINITIAL_FORM qYEH_FINAL_FORM xKHAH_INITIAL_FORM rMEEM_INITIAL_FORM
  lSOLATED_FORM nWITH_MEEM_FINAL_FORM kINITIAL_FORM zcREH_FINAL_FORM kISOLATED_FORM rYEH_FINAL_FORM
  kISOLATED_FORM yLAAMUHU_ALAYNAA nM_ISOLATED_FORM qLA_ISOLATED_FORM
  nUSED_AS_KORANIC_STOP_SIGN_ISOLATED_FORM zpLLAAHU_ALAYHI_WA-AALIH tHOU_ALAYHE_WASALLAM
  sU_ALAYHI_WAAALIHEE_WA-SALLAM zlEEN_WITH_ALEF_MAKSURA_FINAL_FORM kISOLATED_FORM zbHAH_INITIAL_FORM
  lSOLATED_FORM nMEDIAL_FORM lWITH_JEEM_INITIAL_FORM zEH_INITIAL_FORM mMEDIAL_FORM
  pJEEM_INITIAL_FORM lSOLATED_FORM nMEDIAL_FORM lWITH_ALEF_MAKSURA_FINAL_FORM xHAH_INITIAL_FORM
  zbKHAH_INITIAL_FORM lSOLATED_FORM nMEDIAL_FORM lWITH_ALEF_MAKSURA_FINAL_FORM xYEH_FINAL_FORM
  yMEEM_INITIAL_FORM lSOLATED_FORM nMEDIAL_FORM lWITH_HAH_FINAL_FORM kINITIAL_FORM
  qJEEM_INITIAL_FORM rMEEM_FINAL_FORM kINITIAL_FORM zcREH_FINAL_FORM kISOLATED_FORM rYEH_FINAL_FORM
  kISOLATED_FORM zbHADDA_WITH_DAMMA_ISOLATED_FORM nMEDIAL_FORM mTAN_ISOLATED_FORM
  wFATHA_ISOLATED_FORM nMEDIAL_FORM rKASRA_ISOLATED_FORM nMEDIAL_FORM mTAN_ISOLATED_FORM
  wSUPERSCRIPT_ALEF_ISOLATED_FORM zpEEN_WITH_ALEF_MAKSURA_FINAL_FORM kISOLATED_FORM zbHAH_FINAL_FORM
  kINITIAL_FORM lSOLATED_FORM nMEDIAL_FORM lWITH_MEEM_FINAL_FORM kINITIAL_FORM rYEH_FINAL_FORM
  wEH_INITIAL_FORM mMEDIAL_FORM pJEEM_FINAL_FORM kINITIAL_FORM lSOLATED_FORM nMEDIAL_FORM
  lWITH_YEH_FINAL_FORM yKHAH_FINAL_FORM kINITIAL_FORM lSOLATED_FORM nMEDIAL_FORM qMEEM_FINAL_FORM
  kINITIAL_FORM lSOLATED_FORM nMEDIAL_FORM lWITH_KHAH_FINAL_FORM kINITIAL_FORM rMEEM_FINAL_FORM
  kINITIAL_FORM zcREH_FINAL_FORM kISOLATED_FORM rYEH_FINAL_FORM kISOLATED_FORM
  zcUBHAANAHU_WA_TAAALAA vTABAARAKA_WA-TAAALAA sH_WITH_ALEF_MAKSURA_FINAL_FORM kISOLATED_FORM
  zbHAH_INITIAL_FORM lSOLATED_FORM rMEEM_INITIAL_FORM lSOLATED_FORM nMEDIAL_FORM
  lWITH_HAH_FINAL_FORM kINITIAL_FORM qMEEM_INITIAL_FORM rYEH_FINAL_FORM yYEH_FINAL_FORM
  kISOLATED_FORM zEH_WITH_ALEF_MAKSURA_FINAL_FORM kISOLATED_FORM zbHAH_INITIAL_FORM lSOLATED_FORM
  nWITH_JEEM_FINAL_FORM kINITIAL_FORM rMEEM_INITIAL_FORM zEH_INITIAL_FORM mMEDIAL_FORM
  pJEEM_INITIAL_FORM lSOLATED_FORM nWITH_ALEF_MAKSURA_FINAL_FORM xMEEM_INITIAL_FORM rYEH_FINAL_FORM
  yKHAH_INITIAL_FORM lSOLATED_FORM nWITH_ALEF_MAKSURA_FINAL_FORM xMEEM_INITIAL_FORM rYEH_FINAL_FORM
  yMEEM_FINAL_FORM kINITIAL_FORM lSOLATED_FORM nMEDIAL_FORM lWITH_ALEF_MAKSURA_FINAL_FORM
  xHAH_INITIAL_FORM qJEEM_INITIAL_FORM rKHAH_INITIAL_FORM rYEH_FINAL_FORM yNOON_FINAL_FORM
  pREH_FINAL_FORM oYEH_FINAL_FORM kISOLATED_FORM rZAIN_FINAL_FORM
  xHAL_WITH_SUPERSCRIPT_ALEF_ISOLATED_FORM znEH_WITH_ALEF_MAKSURA_FINAL_FORM kISOLATED_FORM
  zbHEH_MEDIAL_FORM pJEEM_ISOLATED_FORM sMEEM_FINAL_FORM kINITIAL_FORM lSOLATED_FORM nMEDIAL_FORM
  qNOON_FINAL_FORM pREH_FINAL_FORM oYEH_FINAL_FORM kISOLATED_FORM rZAIN_FINAL_FORM
  zUIGHUR_KIRGHIZ_YEH_WITH_HAMZA_ABOVE_WITH_ALEF_MAKSURA_FINAL_FORM kINITIAL_FORM lSOLATED_FORM
  zzrWASALLAM_ISOLATED_FORM wYEH_WITH_ALEF_MAKSURA_FINAL_FORM kISOLATED_FORM zbHAH_INITIAL_FORM
  lSOLATED_FORM nWITH_YEH_FINAL_FORM vMZA_ABOVE_WITH_AE_FINAL_FORM kISOLATED_FORM pLEF_FINAL_FORM
  kISOLATED_FORM nMAKSURA_FINAL_FORM kISOLATED_FORM zbE_FINAL_FORM kINITIAL_FORM lSOLATED_FORM
  pHAH_INITIAL_FORM lSOLATED_FORM qEH_INITIAL_FORM mMEDIAL_FORM pJEEM_INITIAL_FORM lSOLATED_FORM
  sKHAH_INITIAL_FORM rMEEM_FINAL_FORM kINITIAL_FORM lSOLATED_FORM nMEDIAL_FORM qNOON_FINAL_FORM
  pOE_FINAL_FORM kISOLATED_FORM qREH_FINAL_FORM oU_FINAL_FORM kISOLATED_FORM pWAW_FINAL_FORM
  kISOLATED_FORM rYEH_FINAL_FORM kISOLATED_FORM qU_FINAL_FORM kISOLATED_FORM qZAIN_FINAL_FORM
  zgEH_INITIAL_FORM mMEDIAL_FORM pJEEM_INITIAL_FORM lSOLATED_FORM nWITH_YEH_FINAL_FORM
  yKHAH_INITIAL_FORM lSOLATED_FORM sMEEM_FINAL_FORM kINITIAL_FORM lSOLATED_FORM nMEDIAL_FORM
  lWITH_MEEM_FINAL_FORM kINITIAL_FORM rYEH_FINAL_FORM yNOON_FINAL_FORM pREH_FINAL_FORM
  oYEH_FINAL_FORM kISOLATED_FORM rZAIN_FINAL_FORM yZAH_WITH_MEEM_INITIAL_FORM lSOLATED_FORM
  nMEDIAL_FORM zjMADDA_WAAJIB hH_ABOVE kRK_NOON_GHUNNA lSIDEWAYS_NOON_GHUNNA xTHEMATICAL_AIN cLEF
  eBEH dDAD bL cOTLESS_BEH dFEH dNOON eQAF jUBLE-STRUCK_AIN dBEH dDAD bL dFEH dGHAIN fHAH dJEEM
  eKHAH eLAM dMEEM eNOON eQAF dREH dSAD cEEN dHEEN fTAH cEH cHAL cEH eWAW dYEH dZAH bIN sFEH dGHAIN
  fHAH dINITIAL_AIN dBEH dDAD dFEH dGHAIN fHAH cEH dJEEM eKAF cHAH eLAM dMEEM eNOON eQAF dSAD cEEN
  dHEEN fTEH cHEH eYEH lJEEM eKAF cHAH eLAM cOOPED_AIN cLEF eBEH dDAD bL dFEH dGHAIN fHAH cEH dJEEM
  eKHAH eLAM dMEEM eNOON eQAF dREH dSAD cEEN dHEEN fTAH cEH cHAL cEH eWAW dYEH dZAH bIN lMEEM eNOON
  eOPERATOR_HAH_WITH_DAL mMEEM_WITH_HAH_WITH_TATWEEL zkQAF dREH dSAD cEEN dHEEN eTRETCHED_AIN dBEH
  dDAD cOTLESS_BEH dFEH lFEH dGHAIN fHAH cEH dJEEM eKAF cHAH eMEEM eNOON eQAF dSAD cEEN dHEEN fTAH
  cEH cHEH eYEH dZAH nTAH bILED_AIN dDAD cOTLESS_NOON eQAF lGHAIN fHAH dJEEM eKHAH eLAM dNOON eQAF
  dSAD cEEN dHEEN fYEH jEH cHAL cEH eWAW dYEH dZAH bIN rNUMBER_MARK_ABOVE kSIGN lOPEN_DAMMATAN
  iFATHATAN iKASRATAN nPERCENT_SIGN lIASTRE_MARK_ABOVE rLACE_OF_SAJDAH oOETIC_VERSE_SIGN
  pUND_MARK_ABOVE qQUESTION_MARK nRAISED_ROUND_DOT oY cEVERSED_DAMMA nIGHT_ARROWHEAD_ABOVE
  a_WITH_DOT oBELOW uOUNDED_HIGH_STOP_WITH_FILLED_CENTRE zlSEMICOLON iHADDA a_ISOLATED_FORM
  nMEDIAL_FORM rIGN_ALAYHE_ASSALLAM pMISRA fRADI_ALLAHOU_ANHU pHMATULLAH_ALAYHE sSAFHA
  dLLALLAHOU_ALAYHE_WASSALLAM zbMVAT eNAH eINDHI_AMPERSAND jPOSTPOSITION_MEN xTAKHALLUS nMALL_DAMMA
  fFARSI_YEH hTHA fHIGH_AIN dDOTLESS_HEAD_OF_KHAH uFARSI_YEH iOOTNOTE_MARKER pJEEM eLAM_ALEF
  hIGATURE_ALEF_WITH_LAM_WITH_YEH wQAF_WITH_LAM_WITH_ALEF_MAKSURA zfSAD_WITH_LAM_WITH_ALEF_MAKSURA
  zoMADDA eEEM_INITIAL_FORM lSOLATED_FORM sNOON a_WITH_KASRA pQAF dROUNDED_ZERO mSAD cEEN dIGN_SAFHA
  kTAH cHREE_DOTS kUPRIGHT_RECTANGULAR_ZERO yWAW cORD_AL-JUZ fN-NISF gR-RUB fS-SAJDA hTH-THALATHA
  mQIF dSAH bKTA fWAQFA kYEH a_BARREE_WITH_TWO_DOTS_BELOW zfZAH bIN jKASRA fLOW_MEEM
  eNOON_WITH_KASRA pSEEN eWAW cORD_IMAALA fSHMAAM hTASHEEL qWAW dYEH iTART_OF_RUB_EL_HIZB
  tUBSCRIPT_ALEF mKUN a_BELOW fISOLATED_FORM nMEDIAL_FORM pPERSCRIPT_ALEF_MOKHASSAS zYMBOL_DOT_ABOVE
  fBELOW hUBLE_VERTICAL_BAR_BELOW zFOUR_DOTS_ABOVE fBELOW pRING eSMALL_TAH_ABOVE fBELOW
  pTHREE_DOTS_ABOVE fBELOW fPOINTING_DOWNWARDS_ABOVE fBELOW zjWO_DOTS_ABOVE fBELOW fVERTICALLY_ABOVE
  fBELOW zWASLA_ABOVE sTAIL_FRAGMENT lTWEEL a_WITH_FATHATAN_ABOVE oOVERSTRUCK_HAMZA fWAW
  oTWO_DOTS_BELOW zbHOUSANDS_SEPARATOR sONE_LOOP_ABOVE fBELOW kONE_DOT_ABOVE fBELOW nTWO_DOTS_ABOVE
  fBELOW sRIPLE_DOT_PUNCTUATION_MARK zbURNED_DAMMA_BELOW sVERTICAL_TAIL mOWEL_SIGN_DOT_BELOW
  jINVERTED_SMALL_V_ABOVE wSMALL_V_ABOVE yWAVY_HAMZA_BELOW qZWARAKAY j-INDIC_CUBE_ROOT jDIGIT_EIGHT
  fFIVE dOUR eNINE eONE dSEVEN eIX dTHREE eWO dZERO kFOURTH_ROOT lPER_MILLE_SIGN kTEN_THOUSAND_SIGN
  zhC bIES dMENIAN_ABBREVIATION_MARK qPOSTROPHE kCAPITAL_LETTER_AYB dBEN dCA bHA bEH dO cDA cECH cH
  bT cFEH dGHAD dIM dHO cINI dJA bHEH eKEH bN dLIWN eMEN dNOW dOH cPEH cIWR eRA bEH dSEH cHA dTIWN
  dO cVEW cO cXEH dYI aWN eZA bHE rOMMA fDRAM_SIGN jEMPHASIS_MARK mXCLAMATION_MARK qFULL_STOP
  jHYPHEN gMODIFIER_LETTER_LEFT_HALF_RING zfQUESTION_MARK nSMALL_LETTER_AYB dBEN dCA bHA bEH dO cDA
  cECH cH bT cFEH dGHAD dIM dHO cINI dJA bHEH eKEH bN dLIWN eMEN dNOW dOH cPEH cIWR eRA bEH dSEH cHA
  dTIWN dO bURNED_AYB kVEW cO cXEH dYI a_WITH_STROKE mWN eZA bHE jIGATURE_ECH_YIWN iMEN_ECH dINI
  dNOW dXEH hVEW_NOW zeROW_POINTING_DOWNWARDS_THEN_CURVING_LEFTWARDS jRIGHTWARDS
  ziRIGHTWARDS_THEN_CURVING_DOWNWARDS jSOUTH_WEST kUPWARDS zgUPWARDS_THEN_NORTH_WEST
  ziHEAD-SHAPED_POINTER wTICULATED_LORRY nST_PALETTE nSCENDING_NODE lIA_SYMBOL kSERTION hTERISK
  a_OPERATOR kM fONISHED_FACE mRAEA dONOMICAL_SYMBOL_FOR_URANUS zdYMPTOTICALLY_EQUAL_TO
  wTHLETIC_SHOE lOM_SYMBOL kUBERGINE hSTRAL_SIGN kTO_RICKSHAW jMATED_TELLER_MACHINE tOBILE
  jVESTAN_ABBREVIATION_MARK rLETTER_A aA aN bO cE aE cN bO cBE bHE dCE cDE bHE dE aE cFE cGE bGE cHE
  dHE bME dI aI cJE cKE cLE cME cNE bGE bVE cYE dNE cYE dO aO cPE cRE cSE bHE bYE dSHE eTE bHE cTE
  dU aU cVE cXE bVE cYE dYE bYE dZE bHE qOCADO gXE dBABY a_ANGEL fBOTTLE gCHICK fSYMBOL
  jCK_OF_ENVELOPE lWITH_LEFTWARDS_ARROW_ABOVE zc-TILTED_SHADOWED_WHITE_RIGHTWARDS_ARROW
  zoSLANTED_SOUTH_ARROW_WITH_HOOKED_TAIL jRIZONTAL_TAIL zoPACE gON cTRIAN_CAMEL mDGER
  dMINTON_RACQUET_AND_SHUTTLECOCK zgGEL cGAGE_CLAIM kUETTE_BREAD mLINESE_ADEG_ADEG jCARIK_PAMUNGKAH
  hREREN hSIKI kDIGIT_EIGHT fFIVE dOUR eNINE eONE dSEVEN eIX dTHREE eWO dZERO kLETTER_AIKARA fKARA
  a_TEDUNG lRCHAIC_JNYA lSYURA_SASAK mBA a_KEMBANG kCA a_LACA hDA a_MADU dURDA_ALPAPRANA jMAHAPRANA
  sEF_SASAK hKARA fGA a_GORA hHA cIKARA a_TEDUNG mJA a_JERA hKA a_MAHAPRANA kF_SASAK iHOT_SASAK kLA
  a_LENGA a_TEDUNG pMA cNA a_RAMBAT iGA cYA dOKARA a_TEDUNG mPA a_KAPAL iRA a_REPA a_TEDUNG oSA
  a_SAGA cPA hTA a_LATIK fMURDA_MAHAPRANA pTAWA gZIR_SASAK kUKARA a_TEDUNG mVE_SASAK iWA cYA
  cZAL_SASAK qMUSICAL_SYMBOL_COMBINING_BENDE fENDEP fGONG eJEGOGAN hKEMPLI a_WITH_JEGOGAN pUL
  a_WITH_JEGOGAN tTEGEH pDAENG dING dNG a_GEDE eSURANG kENG cUNG eING dONG dUNG
  eLEFT-HAND_CLOSED_PLAK cUK lOPEN_PANG dING dUNG tRIGHT-HAND_CLOSED_TAK cUK kOPEN_DAG cUG zjPAMADA
  a_LANTANG lENENG gNTI a_LANTANG nSIGN_BISAH fCECEK fREREKAN hSURANG gULU_CANDRA gRICEM
  oVOWEL_SIGN_LA_LENGA a_TEDUNG pPEPET a_TEDUNG mRA_REPA a_TEDUNG oSUKU a_ILUT jTALING a_REPA
  a_TEDUNG lTEDUNG mEDUNG gULU a_SARI tWINDU lL_OF_YARN iET_SHOES iOON a-SPOKED_ASTERISK
  sT_BOLD_SCRIPT_X lX a_WITH_BALLOT fOLD_CHECK fSCRIPT_X nCHECK fLIGHT_X hSCRIPT_X iX kSCRIPT_X iX
  gMUM_COLON dMBINING_MARK_KOQNDON hTUKWENTIS vMA fFULL_STOP jLETTER_A bEE cFAAMAE fEE cOM cU cI bKA
  bEN bT bUX dI bO aGHOM eVUU ePA cU bYEE eLA bEEEE eI bOQ cU cM aA bBAA cEN dEEEE dN cI bO bU cNA
  bDAA dGA bGA cKWAEN gI bJAEM dEE cUAE eSHA dTEE cUU dU aAE dYI dO bPA bEE bUX dHASE-A_FIRI
  eGBIEE_FON iHEUAEGHEUAE gRAE jKAFA cQ cET bUKEUTNDA jPOQ dUOQ eLAPAQ eET_KUT gOMMAE fU aAEP
  fMAEKEUP eM aBGBIEE gKPEN eVEUX fNYI dSI dNSUAE fP_PIEET iBANYI dQ dEUNJOMNDEUQ lGBASA
  fON_NGGEUAET kOMEUT dPUQ gVEUAENGAM kNAA_MFON gQ cDA_LEERAEWA jANGGEUAET lEN cGANGU eGEN dKUE_MFON
  fNZEUM jIKA dJAM dKAARAE fINDI fSHA bIEE fTAP a_MFAA eNTAA hOQPEN gYET cI aT_MONGKEUAEQ oZA_MFON
  gUN_MEUT jPA_LEERAEWA jAM bRAE eMSHAE fSHAE fET cON_MFON_PIPAEMBA cGBIEE qPA_NJI_PIPAEMBA cGBIEE
  vUP dROM dSEUNYAM gHINDA_PA_NJI kRAE eOQ_NSHUT_YUM mUENSHUET hM dISA dONJAM eQ bT cUU dTEUAEN
  dTEUWEN iITA_MFON iU_MAEMBA hAEP fU_YUQ_NAE iNKNOWN hVEE fB_FEE bUX eGHEUGHEN bUAEM lKAM cEUAEM
  dPUQ dYEUX gIEEM dQ dLAANAE eM_NSHUT_NYAM nET cOM_NTEUM jMA a_NJEUAENA gUQA hBA_MAELEE hARAE fEURI
  eIT_MBAAKET kUOQ eEUQ bT_NGGEET kFIYAQ eON_TEUAEQ kONTIEEN iNDU_NJAA hGGAAM dEU_MBU gUOQ a_LARGE
  kKINDI_MVOP kOM dSEN cHUET fTIEE_SHEUOQ lYAEMAE fI_NTEUM jPARUM eEESHI fIT cUNGAAM hSAKEUAE gET_TU
  fHET_NJAQ gUAEQTU iIEE dUE dTAAM dU_MAEMGBIEE jNSIEE iVEUM eWUAET fYAFU_LEERAEWA mEURAE iC_BUNG
  eFUE dGBAYI eHAP bRAE gKAA cEN_FATIGUE hLAW fT bUKAQ dM bSEUX dHEUAEP jPARAQ fUOP_NKAARAE kT dLAM
  bP cIQ cU cMA_KEUAERI hNSIEE gEMBA dSI eBAA_CABBAGE-TREE mPICKET iNYI eEEKEET fRAE dUM bX dI
  aRIEEN fT cUAEM dE dGBASAQ gIEE dUAE eNANSANAQ gQ cDAM bP cEUAEREE fT dIDA dOMBU fGAQ cGEN cU
  aAEN_NYAM iEET dM bON eKAQ cUE_MAEMBA kOM dJAEM cM cEEEE dUX dUEQ eSA bEUAEN fHAQ dOM cUN bOT_NGOM
  jTAA cEN bUNGBA gU_MBIT hYIR_MKPARAQ_MEUN qZA bEUM fPEN cIN bRIEEN hRU cSETFON eUX dHIQ cUEQ eUAET
  fTAASHAE gET bUTEUX gITA_YUE fUAEP hVEUAEPEN fX eWANGKUOQ hUP dYAA cEUQ dU_MUOMAE hM bWOQ hD_FAA
  cEUFEUAET jGHAA cEUAE gKET bUAETMEUN hM bOT_MBUAE iP dU aN bOM cQ cWAET eYEE eLEEEE dT bUAEP dM
  dIEE dOQ cUM dM aAENJET fLEERI gBAA a_SEVEN iUO dEEEE dUN bT dFEUAE cT dIEE dO aN dGBEUN dIEE
  dOFUM gONI dU bVOP eNDAM cEE bUX dON dGGAAM aAE eP cEUX dUOM dWAEN fKAP cEUAEQ dRI eIEE dUN cYEE
  fI bJAP cEUAEM dT dI aEE dUEQ eSHEE cUT dIEEP bT eUM dTEE bUM dUU dU bYAM cET cI bUE ePAP cEE
  bUTAE fIP cUQ bUT eRAEM dEN_MUCH eOLD gII dSAP bQ cEUAEQ fHEE bUAE cX dII cOQ cU cOT cUAE cE bU
  dTAE cEEEE dUAEN dN bT dI bOQ cU aOT eWAP cUAEN fYAEMMAE gEN cUOM bP cWOQ hE_A bFA aQ cEE cOM
  cU_CALL eI bREMEDY hE aT eGBET bUX eHAAMAE fET bUAE cN bX dOM eI bKET bUAE cX dI bO bPEUX eUET cOP
  cT dLAAM cP bQ cEUAEM fOM bON bT cQ cU cMA aE aM cP bQ cBEE bUM eEN cFEUQ eGBA bEN eI aEE dON cUAE
  dVI dNA aE cDAA_MY_HOUSE iSOFTNESS kP cIAQ cQ cUN dGA bEUREUT gGEEEE dUAE aT fUAESHAE_NYAM lP bRAE
  fKA aAMI eEUAEM dX dUM bP dOP bQ cUAE aT fJAEMLI fEE a_EPOCH hUX eKOM dSHIEE dUE bOP fTAP cUM
  dYI_BETWEEN hCLEAVER kZAQ cUQ eO bPA_PEOPLE fLURAL hA aM dEEM cUT bX dI aEEQ cT dO aON dU aAE bQ
  cE bM dRAE bQ cEUX dIMGBA gSAA cEE bT cHEUAEQ fIQ cO aQ dOM cUAEN fTAA aQ cEN_NTEUM iM bQ cEN bU
  aAEQ fOO aN cQ cUAE cM aAE fVEE bUAE eOM dWEUX dUE bO dYAP cEUAE aT dM bX dIEE cT cOQ_COVER
  fSWIMMING lUAEN dEQ cN bQ fF_EE cFOM dKA bEN bT cO bPA cU bYEE eLA bI bOQ dM aA bBAA cEN dEEEE eO
  cNDAA dGGA cKWAEN gI bJAEM dUAE eSHA dTEE dU aAE dYI dPEE bUX dUAE eREE bN bUX dIEE cI cU cSAMBA
  eEUX dHII cO bU cI bUU dTAA bE cET dU bVUEQ eWA bUE dYA bOQ kI bUAE cE dRAE cEE bN bUX dIEE cI cU
  cSAMBA eEUX dHEUX dII cO bU cI bUU dTAA bE cEN bT cI cU bWA bUE dYA bOQ cUQ kNJAEMLI
  hQUESTION_MARK nSEMICOLON nNANA dJO cK aNOTE_WITH_DOLLAR_SIGN lEURO_SIGN jPOUND_SIGN kYEN_SIGN
  uR_CHART fOF_SOAP iBER_POLE jSEBALL fKET aBALL_AND_HOOP qSA_VAH_COMBINING_HIGH_TONE f-LOW_TONE
  nLOW_TONE f-MID_TONE mMID_TONE sFULL_STOP jLETTER_A bBA cCE cDHII dO cE aE bNNI eFA cGAH cBU dHWAH
  eI bJO cKA bPAH eMBE dO aO cPA cSE cTO cU aWU dVU cWA aDDA fYEIN dIE dZO rT aAK_CONSONANT_SIGN_H
  bNG rLETTER_A bBA cCA cDA cGA cHA cI bJA cKARO_BA hLA cMA aNDAILING_HA cNA cSA mBA dNA bDA cGA
  cORTHERN_TA kYA dPA aKPAK_WA jRA cSA bIMALUNGUN_A bGA cHA cLA cMA cPA cRA cSA cWA cYA mOUTHERN_TA
  lU bWA cYA jPANGOLAT fONGONAN kSIGN_TOMPI jYMBOL_BINDU_JUDUL fNA_METEK iPANGOLAT hINARBORAS
  xVOWEL_SIGN_E aE cI bKARO_I bO gO bPAKPAK_E iU a_FOR_SIMALUNGUN_SA ziH aTUB eTERY
  gEACH_WITH_UMBRELLA qMED_ASCENDING_MUSICAL_NOTES xDESCENDING_MUSICAL_NOTES yEIGHTH_NOTES
  mSIXTEENTH_NOTES tNS cR_FACE fDED_PERSON lTING_HEART kVER eCAUSE fD bER_MUG fTLE eL aL a_PEPPER
  gSYMBOL gWITH_CANCELLATION_STROKE zHOP_BELL kNGALI_ABBREVIATION_SIGN qNJI dU_LENGTH_MARK
  oCURRENCY_DENOMINATOR_SIXTEEN tNUMERATOR_FOUR eONE a_LESS_THAN_THE_DENOMINATOR zeTHREE eWO
  wDIGIT_EIGHT fFIVE dOUR eNINE eONE dSEVEN eIX dTHREE eWO dZERO kGANDA_MARK kISSHAR gLETTER_A aA bI
  bU cBA bHA dCA bHA dDA bDA bHA dHA dE bGA bHA dHA cI aI cJA bHA dKA bHA aNDA_TA jLA cMA cNA bGA
  cNA cYA dO bPA bHA dRA a_WITH_LOWER_DIAGONAL oMIDDLE_DIAGONAL wHA cRA dSA bHA cSA dTA bHA cTA bHA
  eU aU cVEDIC_ANUSVARA nOCALIC_L aL cR aR kYA bYA kRUPEE_MARK eSIGN kSANDHI_MARK kIGN_ANUSVARA
  hVAGRAHA iCANDRABINDU lNUKTA fVIRAMA eSARGA mVOWEL_SIGN_AA bI bU cE bI aI cO bU aU cVOCALIC_L aL
  cR aR zbT_ARROW_POINTING_DOWNWARDS_THEN_NORTH_EAST zqO_BOX gZENE_RING a_WITH_CIRCLE wT_SYMBOL
  hWEEN fVERAGE_BOX lHAIKSUKI_DANDA eIGIT_EIGHT fFIVE dOUR eNINE eONE dSEVEN eIX dTHREE eWO dZERO
  jOUBLE_DANDA mGAP_FILLER-1 b2 mHUNDREDS_UNIT_MARK sLETTER_A aA bI bU cBA bHA dCA bHA dDA bDA bHA
  dHA dE bGA bHA dHA cI aI cJA bHA dKA bHA dLA cMA cNA bGA cNA cYA dO bPA bHA dRA cSA bHA cSA dTA
  bHA cTA bHA eU aU cVA bOCALIC_L bR aR kYA jNUMBER_EIGHT aY gFIFTY dVE dORTY dUR eNINE aTY gONE
  dSEVEN aTY gIX aTY fTEN cHIRTY eREE eWENTY eO kSIGN_ANUSVARA hVAGRAHA iCANDRABINDU lVIRAMA eSARGA
  mVOWEL_SIGN_AA bI bU cE bI aI cO bU aU cVOCALIC_L bR aR vWORD_SEPARATOR xICYCLE bIST
  hG_REVERSE_SOLIDUS pSOLIDUS jKINI eLLED_CAP gIARDS hOHAZARD_SIGN mRD bTHDAY_CAKE lSON dTCOIN_SIGN
  jING_LIP jLACK_BOWTIE gCENTRE_WHITE_STAR qHESS_BISHOP a_ROTATED_NINETY_DEGREES
  oTWO_HUNDRED_SEVENTY_DEGREES zrEQUIHOPPER a_ROTATED_NINETY_DEGREES ziKING a_ROTATED_NINETY_DEGREES
  oTWO_HUNDRED_SEVENTY_DEGREES zoNIGHT a_ROTATED_FORTY-FIVE_DEGREES sNINETY_DEGREES
  oONE_HUNDRED_THIRTY-FIVE_DEGREES zgTHREE_HUNDRED_FIFTEEN_DEGREES zdWO_HUNDRED_SEVENTY_DEGREES
  pTWENTY-FIVE_DEGREES zp-BISHOP gQUEEN fROOK lPAWN a_ROTATED_NINETY_DEGREES
  oTWO_HUNDRED_SEVENTY_DEGREES zpQUEEN a_ROTATED_NINETY_DEGREES oTWO_HUNDRED_SEVENTY_DEGREES zqROOK
  a_ROTATED_NINETY_DEGREES oTWO_HUNDRED_SEVENTY_DEGREES zpTURNED_BISHOP gKING dNIGHT gPAWN eQUEEN
  fROOK qIRCLE a_FOR_RECORD kWITH_DOWN_ARROW kTWO_WHITE_DOTS oWHITE_DOT_RIGHT zbLUB_SUIT
  iROSS_ON_SHIELD oURVED_DOWNWARDS_AND_LEFTWARDS_ARROW pRIGHTWARDS_ARROW
  zfLEFTWARDS_AND_DOWNWARDS_ARROW pUPWARDS_ARROW zcRIGHTWARDS_AND_DOWNWARDS_ARROW pUPWARDS_ARROW
  zdUPWARDS_AND_LEFTWARDS_ARROW pRIGHTWARDS_ARROW zkDIAMOND a_CENTRED hMINUS_WHITE_X nON_CROSS iSUIT
  eWITH_DOWN_ARROW wOWN_POINTING_BACKHAND_INDEX y-POINTING_DOUBLE_TRIANGLE pISOSCELES_RIGHT_TRIANGLE
  ySMALL_TRIANGLE oTRIANGLE sWARDS_EQUILATERAL_ARROWHEAD zfRAUGHTS_KING eMAN kOPLET hFLAG cORETTE
  hOLDER eUR_POINTED_STAR rHARD_SHELL_FLOPPY_DISK vEART a_SUIT iXAGON gORIZONTAL_ELLIPSE qURGLASS
  jLARGE_CIRCLE gSQUARE lEFT_LANE_MERGE kPOINTING_BACKHAND_INDEX oINDEX p-POINTING_DOUBLE_TRIANGLE
  a_WITH_VERTICAL_BAR ziISOSCELES_RIGHT_TRIANGLE yPOINTER hSMALL_TRIANGLE oTRIANGLE sWARDS_BULLET
  gEQUILATERAL_ARROWHEAD zfOWER_LEFT_TRIANGLE nRIGHT_TRIANGLE sZENGE hMEDIUM_DIAMOND
  gOWN-POINTING_TRIANGLE a_CENTRED zfLEFT-POINTING_TRIANGLE a_CENTRED zeOZENGE
  hRIGHT-POINTING_TRIANGLE a_CENTRED zgSMALL_DIAMOND hLOZENGE hSQUARE lQUARE gUP-POINTING_TRIANGLE
  a_CENTRED zjOON_LILITH lNIB dOCTAGON hPARALLELOGRAM mENNANT eTAGON hUSHPIN hQUESTION_MARK_ORNAMENT
  wRECTANGLE iIGHT_POINTING_BACKHAND_INDEX oINDEX p-POINTING_DOUBLE_TRIANGLE a_WITH_VERTICAL_BAR
  ziISOSCELES_RIGHT_TRIANGLE yPENTAGON hOINTER hSMALL_TRIANGLE oTRIANGLE a_WITH_DOUBLE_VERTICAL_BAR
  zsWARDS_ARROW aHEAD jBULLET gEQUILATERAL_ARROWHEAD zgOSETTE hSAFETY_SCISSORS oCISSORS hHOGI_PIECE
  kKULL_AND_CROSSBONES tLIGHTLY_SMALL_CIRCLE gSQUARE uMALL_DIAMOND hLOZENGE hSQUARE fTAR iILING_FACE
  lNOWMAN gPADE_SUIT jQUARE a_BUTTON gCENTRED hFOR_STOP oTAR dUN_WITH_RAYS nTELEPHONE iINY_DIAMOND
  hLOZENGE hSQUARE kOUCHTONE_TELEPHONE sRUCK eWO-WAY_LEFT_WAY_TRAFFIC yUNIVERSAL_RECYCLING_SYMBOL
  zP_POINTING_BACKHAND_INDEX y-POINTING_DOUBLE_TRIANGLE pISOSCELES_RIGHT_TRIANGLE ySMALL_TRIANGLE
  oTRIANGLE sPER_LEFT_TRIANGLE nRIGHT_TRIANGLE sWARDS_EQUILATERAL_ARROWHEAD zeVERTICAL_ELLIPSE
  hRECTANGLE pY_SMALL_DIAMOND hLOZENGE hSQUARE s-FEATHERED_NORTH_EAST_ARROW qRIGHTWARDS_ARROW
  qSOUTH_EAST_ARROW zbLETTER_CAPITAL_C bH bI bR bZ tNK_SYMBOL kOCK_SEXTANT-1 a2 a3 a4 a5 b6 c5 a6 c6
  c4 a5 a6 c6 c5 a6 c6 c3 a4 a5 a6 c6 c56 c6 c4 a5 a6 c6 c5 a6 c6 c2 a3 a4 a5 a6 c6 c5 a6 c6 c4 a5
  a6 d5 a6 c6 c3 a4 a5 a6 c6 c5 a6 c6 c4 a5 a6 c6 c5 a6 c6 mSSOM eWFISH gUE_BOOK eHEART gBERRIES
  kOAR cLD_EIGHT_SPOKED_ASTERISK vFIVE_SPOKED_ASTERISK uGREEK_CROSS lSALTIRE gIX_SPOKED_ASTERISK
  tWHITE_CIRCLE gSQUARE pM aB cNE cOK aMARK a_TABS jS cMERANG hPOMOFO_FINAL_LETTER_G bH bK bP bT
  oLETTER_A aH bI aNN dM bN aG bN cU aNN eB aU cC aH cD bE aE bH bI bN aG bN cR cF bG aH bN bU bW cH
  bI aH bM bNN aN dR bU cJ aI cK aW cL aH cM bN aG aG cN cO a_WITH_DOT_ABOVE pE bM bNG bN cO bU cP
  bQ bR bS aH cT bU aNN dV bX bZ aH bI bY qTTLE_WITH_POPPING_CORK uOM_ARC_ANTICLOCKWISE_ARROW
  xCURLY_BRACKET nHALF_BLACK_CIRCLE mINTEGRAL iLEFT_PARENTHESIS qRIGHT_PARENTHESIS wLEFT_CORNER fROP
  eHALF_BRACKET rPARENTHESIS lRIGHT_CORNER fROP eHALF_BRACKET sSQUARE_BRACKET
  a_OVER_TOP_SQUARE_BRACKET znTORTOISE_SHELL_BRACKET zcUQUET a_OF_FLOWERS qW_AND_ARROW kL_OF_HYGIEIA
  kWITH_SPOON lING eTIE a_WITH_LEFT_HALF_BLACK pRIGHT_HALF_BLACK
  zbX_DRAWINGS_DOUBLE_DOWN_AND_HORIZONTAL kLEFT eRIGHT oHORIZONTAL kUP_AND_HORIZONTAL kLEFT eRIGHT
  mVERTICAL a_AND_HORIZONTAL kLEFT eRIGHT xWN_DOUBLE_AND_HORIZONTAL_SINGLE rLEFT_SINGLE
  lRIGHT_SINGLE xHEAVY_AND_HORIZONTAL_LIGHT qLEFT_LIGHT fUP_LIGHT nRIGHT_LIGHT fUP_LIGHT
  oUP_HORIZONTAL_LIGHT zeLIGHT_AND_HORIZONTAL_HEAVY qLEFT_HEAVY fUP_HEAVY nRIGHT_HEAVY fUP_HEAVY
  oUP_HORIZONTAL_HEAVY zeSINGLE_AND_HORIZONTAL_DOUBLE rLEFT_DOUBLE lRIGHT_DOUBLE
  zdHEAVY_DOUBLE_DASH_HORIZONTAL kVERTICAL sWN a_AND_HORIZONTAL kLEFT eRIGHT oHORIZONTAL kLEFT
  a_AND_LIGHT_RIGHT uQUADRUPLE_DASH_HORIZONTAL kVERTICAL xRIGHT fTRIPLE_DASH_HORIZONTAL kVERTICAL
  uUP a_AND_HORIZONTAL kLEFT dIGHT_DOWN kRIGHT mVERTICAL a_AND_HORIZONTAL kLEFT eRIGHT
  yLEFT_DOWN_HEAVY_AND_RIGHT_UP_LIGHT zeHEAVY_AND_RIGHT_DOWN_LIGHT kUP_LIGHT iVERTICAL_LIGHT
  zfLIGHT_AND_RIGHT_DOWN_HEAVY kUP_HEAVY iVERTICAL_HEAVY zfUP_HEAVY_AND_RIGHT_DOWN_LIGHT
  ziIGHT_ARC_DOWN_AND_LEFT eRIGHT oUP_AND_LEFT eRIGHT qDIAGONAL_CROSS fDIAMOND
  hMIDDLE_LEFT_TO_LOWER_CENTRE a_TO_MIDDLE_RIGHT zdUPPER_CENTRE_TO_MIDDLE_RIGHT a_TO_LOWER_CENTRE
  zzcRIGHT_TO_LOWER_CENTRE mUPPER_CENTRE_TO_MIDDLE_LEFT_TO_LOWER_CENTRE
  zzjUPPER_CENTRE_TO_MIDDLE_LEFT a_AND_MIDDLE_RIGHT_TO_LOWER_CENTRE zhTO_LOWER_CENTRE
  a_TO_MIDDLE_RIGHT zlRIGHT a_AND_MIDDLE_LEFT_TO_LOWER_CENTRE zgTO_LOWER_CENTRE a_TO_MIDDLE_LEFT
  zzdLEFT_TO_LOWER_RIGHT tRIGHT_TO_LOWER_LEFT ziOUBLE_DASH_HORIZONTAL kVERTICAL sWN a_AND_HORIZONTAL
  kLEFT eRIGHT oHORIZONTAL a_WITH_VERTICAL_STROKE zgLEFT a_AND_HEAVY_RIGHT
  uQUADRUPLE_DASH_HORIZONTAL kVERTICAL xRIGHT fTRIPLE_DASH_HORIZONTAL kVERTICAL uUP a_AND_HEAVY_DOWN
  jORIZONTAL kLEFT eRIGHT mVERTICAL a_AND_HORIZONTAL kLEFT eRIGHT
  yRIGHT_DOWN_HEAVY_AND_LEFT_UP_LIGHT zdHEAVY_AND_LEFT_DOWN_LIGHT kUP_LIGHT iVERTICAL_LIGHT
  zeLIGHT_AND_LEFT_DOWN_HEAVY kUP_HEAVY iVERTICAL_HEAVY zeUP_HEAVY_AND_LEFT_DOWN_LIGHT
  zjUP_DOUBLE_AND_HORIZONTAL_SINGLE rLEFT_SINGLE lRIGHT_SINGLE xHEAVY_AND_DOWN_HORIZONTAL_LIGHT
  vHORIZONTAL_LIGHT qLEFT_DOWN_LIGHT kLIGHT kRIGHT_DOWN_LIGHT kLIGHT
  vLIGHT_AND_DOWN_HORIZONTAL_HEAVY vHORIZONTAL_HEAVY qLEFT_DOWN_HEAVY kHEAVY kRIGHT_DOWN_HEAVY
  kHEAVY vSINGLE_AND_HORIZONTAL_DOUBLE rLEFT_DOUBLE lRIGHT_DOUBLE
  zbVERTICAL_DOUBLE_AND_HORIZONTAL_SINGLE rLEFT_SINGLE lRIGHT_SINGLE xHEAVY_AND_HORIZONTAL_LIGHT
  qLEFT_LIGHT kRIGHT_LIGHT vLIGHT_AND_HORIZONTAL_HEAVY qLEFT_HEAVY kRIGHT_HEAVY
  vSINGLE_AND_HORIZONTAL_DOUBLE rLEFT_DOUBLE lRIGHT_DOUBLE zrING_GLOVE kY aS_SYMBOL kPH cRAHMI_DANDA
  eIGIT_EIGHT fFIVE dOUR eNINE eONE dSEVEN eIX dTHREE eWO dZERO jOUBLE_DANDA mLETTER_A aA bI bU cBA
  bHA dCA bHA dDA bDA bHA dHA dE bGA bHA dHA cI aI cJA bHA dKA bHA dLA bLA dMA cNA bGA cNA cYA dO
  aLD_TAMIL_LLA bLA eNNNA eRRA dSHORT_E bO rPA bHA dRA cSA bHA cSA dTA bHA cTA bHA eU aU cVA
  bOCALIC_L aL cR aR kYA jNUMBER_EIGHT aY gFIFTY dVE dORTY dUR eJOINER gNINE aTY gONE a_HUNDRED
  hTHOUSAND mSEVEN aTY gIX aTY fTEN cHIRTY eREE eWENTY eO kPUNCTUATION_CRESCENT_BAR mDOT bUBLE_DOT
  kLINE dOTUS rSIGN_ANUSVARA iCANDRABINDU lJIHVAMULIYA lOLD_TAMIL_VIRAMA qUPADHMANIYA lVISARGA
  mVIRAMA fOWEL_SIGN_AA bI bU cBHATTIPROLU_AA oE bI aI cO aLD_TAMIL_SHORT_E bO rU aU cVOCALIC_L aL
  cR aR zILLE_PATTERN_BLANK fDOTS-1 a2 a3 a4 a5 a6 a7 a8 c8 c7 a8 c8 c6 a7 a8 c8 c7 a8 c8 c5 a6 a7
  a8 c8 c7 a8 c8 c6 a7 a8 c8 c7 a8 c8 c4 a5 a6 a7 a8 c8 c7 a8 c8 c6 a7 a8 c8 c7 a8 c8 c5 a6 a7 a8 c8
  c7 a8 c8 c6 a7 a8 c8 c7 a8 c8 c3 a4 a5 a6 a7 a8 c8 c7 a8 c8 c6 a7 a8 c8 c7 a8 c8 c5 a6 a7 a8 c8 c7
  a8 c8 c6 a7 a8 c8 c7 a8 c8 c4 a5 a6 a7 a8 c8 c7 a8 c8 c6 a7 a8 c8 c7 a8 c8 c5 a6 a7 a8 c8 c7 a8 c8
  c6 a7 a8 c8 c7 a8 c8 c2 a3 a4 a5 a6 a7 a8 c8 c7 a8 c8 c6 a7 a8 c8 c7 a8 c8 c5 a6 a7 a8 c8 c7 a8 c8
  c6 a7 a8 c8 c7 a8 c8 c4 a5 a6 a7 a8 c8 c7 a8 c8 c6 a7 a8 c8 c7 a8 c8 c5 a6 a7 a8 c8 c7 a8 c8 c6 a7
  a8 c8 c7 a8 c8 c3 a4 a5 a6 a7 a8 c8 c7 a8 c8 c6 a7 a8 c8 c7 a8 c8 c5 a6 a7 a8 c8 c7 a8 c8 c6 a7 a8
  c8 c7 a8 c8 c4 a5 a6 a7 a8 c8 c7 a8 c8 c6 a7 a8 c8 c7 a8 c8 c5 a6 a7 a8 c8 c7 a8 c8 c6 a7 a8 c8 c7
  a8 c8 sN dEAD bK_PERMITTED_HERE qST-FEEDING lVE dICK cDE_WITH_VEIL lGE_AT_NIGHT mEFCASE eS eOCCOLI
  fKEN_BAR dCIRCLE_WITH_NORTHWEST_ARROW zcHEART jOM cWN_HEART kS bUBBLE_TEA eS fCKET eG
  aINESE_END_OF_SECTION oLETTER_A bBA cCA cDA cGA cHA cJA cKA cLA cMA bPA dNA bGA bKA dRA cYA bCA
  ePA cRA cSA cTA cVA cYA jPALLAWA hVOWEL_SIGN_AE cE bI bO bU tHID_LETTER_A bBA cDA cGA cHA cI bKA
  cLA cMA cNA bGA dPA cRA cSA cTA cU bWA cYA jVOWEL_SIGN_I bU qILDING_CONSTRUCTION tLLET a_OPERATOR
  lHORN a_WITH_SOUND_WAVES vSEYE gRRITO fS a_STOP fT_IN_SILHOUETTE oS_IN_SILHOUETTE rTTER aFLY
  iYTE_ORDER_MARK nZANTINE_MUSICAL_SYMBOL_AGOGI_ARGI bOTERI iGORGI bOTERI jMESI cTRIA gPOLI_ARGI
  eGORGI pNATRICHISMA kTIKENOKYLISMA hMA jPESO_EKFONITIKON kXO_NEO lLI cODERMA_ARCHAION iNEO
  jSTROFOI_SYNDESMOS_NEO nTELOUS_ICHIMATOS sS a_DIPLI fNEO lTHEMA hRGON bSYNTHETON lKTIKO_DI cGA cKE
  cNI cPA cVOU dZO kCHAMILI bON gOREVMA_ARCHAION iNEO kROA_KLITON gSPATHI gZYGOS lDASEIA fIARGON
  eSTOLI_APLI_MEGALI fIKRI kDIPLI fTHESEOS oESIS_APLI_DYO_DODEKATA rDIGRAMMOS_EX_DODEKATA
  vMONOGRAMMOS_TESSERA_DODEKATA zdTETARTIMORION mRIGRAMMOS_OKTO_DODEKATA vTIMORION qFTOGGOS_OU
  kGORGON a_PARESTIGMENON_ARISTERA_ANO dKATO nDEXIA zRAMMA_GG jPLI a_ARCHAION nYO dEKSTREPTON
  jLAFRON gNARXIS_KAI_FTHORA_VOU uDOFONON iPEGERMA hTERON_ARGOSYNTHETON nPARAKALESMA rXO_EKFONITIKON
  pFANEROSIS_DIFONIAS iMONOFONIAS kTETRAFONIAS uHTORA_SKLIRON_CHROMA_VASIS zbTHORA_ARCHAION
  a_DEYTEROU_ICHOU xDIATONIKI_DI cKE cNANA dI_ANO dKATO hPA cZO mENARMONIOS_ANTIFONIA
  uI_YFESIS_TETARTIMORION wMALAKON_CHROMA_DIFONIAS iMONOFONIAS zNAOS_ICHOS jENANO
  gSKLIRON_CHROMA_SYNAFI gVASIS mDIATONON_DI zbGENIKI_DIESIS gYFESIS mORGON_ARCHAION iNEO_ANO dKATO
  iPARESTIGMENON_ARISTERA iDEXIA vSYNTHETON lTHMIKON_N_APLOUN gDIPLOUN tRONTHISMATA mICHADIN
  gMIDIARGON hFONON eTHORA bON jSAKIA_TELOUS_ICHIMATOS vON_ARCHAION iNEO iKATAVA_TROMIKON jSMA
  gHISTI hENTIMA_ARCHAION iNEO_ANO dKATO eMESO jTA a_ARCHAION iNEO_ANO dKATO eMESO rLASMA a_ANO
  dKATO kONTEVMA a_ALLO lRONIS fUFISMA hRATIMA_ALLO dRCHAION iNEO eTA dOKOUFISMA iYPORROON nEMASTI
  hYLISMA hLEIMMA_DYO_CHRONON lENOS_CHRONOU mIMISEOS_CHRONOU pTESSARON_CHRONON pRION_CHRONON sMOI
  eYGISMA hMARTYRIA_ALLI_DEYTEROS_ICHOS oPROTOS_ICHOS rDEYTEROS_ICHOS oLEGETOS_ICHOS nPLAGIOS_ICHOS
  fTETARTOS_ICHOS vROTOS_ICHOS hVARYS_ICHOS qTETARTOS_ICHOS fLEGETOS_ICHOS vRIFONIAS gTOS_ICHOS
  mVARYS_ICHOS tIKRON_ISON lNANA eOLIGON_ARCHAION iNEO jMALON fXEIA_DIPLI fEKFONITIKON lNEO
  eI_ARCHAION oYRANISMA_ARCHAION iNEO nPARAKALESMA_ARCHAION iNEO kLITIKI a_ARCHAION iNEO mICHON
  hELASTON a_NEO kRISPOMENI jTASMA cTI bOKOUFISMA oIASMA_ARCHAION iNEO jSIFISTOLYGISMA hN a_NEO
  fPARAKALESMA lSYNAGMA mLI bON gRAPISMA gEVMA fSAXIMATA hEISMA a_NEO jIMANSIS_ARSEOS a_DISIMOU
  hTETRASIMOU jRISIMOU pTHESEOS a_DISIMOU hTETRASIMOU jRISIMOU yTAVROS a_APODEXIA oIGMA eRAGGISMATA
  lYNAGMA_ARCHAION iMETA_STAVROU mNEO iEVMA fRMA aTIKI jTELEIA eSSERA fTRAPLI hHEMA a_APLOUN
  hTISMOS_ESO cXO mS_KAI_APOTHES oITA eINAGMA gRIA bGORGON gPLI eOMIKOLYGISMA hN_ALLO dRCHAION iNEO
  fPARAKALESMA kSIFISTON jSYNAGMA oVAREIA_DIPLI fEKFONITIKON lNEO eI_ARCHAION oTHY fXIRON_KLASMA
  mYFEN_ANO dKATO gSIS_APLI_DYO_DODEKATA rDIGRAMMOS_EX_DODEKATA vMONOGRAMMOS_TESSERA_DODEKATA
  zdTRIGRAMMOS_OKTO_DODEKATA vTIMORION rPOKRISIS a_DIPLI mRROI fSILI"⟩

end LineCalc.Text
