import LineCalc.Text.CharName.Basic

/-!
Names of characters from C to D.
-/
namespace LineCalc.Text

def namesCToD : NameTable := ⟨"
  aCACTUS eDA_UNA fUCEUS gLENDAR fL_ME_HAND kMERA a_WITH_FLASH oPING fN aADIAN_SYLLABICS_A aA aI bY
  cI aVILIK_B iN bTHAPASCAN_M bS lY cBEAVER_DENE_L bR mIBLE-CREE_Y lLACKFOOT_A bE bI bKA bE bI bO
  cNA bE bI bO cO bS bW aA bE bI bO mC aA aA aI cRRIER_CHA bE aE cI bO bU dDEE bNE_GEE fTAL_S hI bLA
  bE aE cI bO bU cZA bE aE cI bO bU dEE cGA aA cE aE cHA bE aE cI bO bU cI bO bU bWA bU dH aEE cI
  bWA bE aE cI bO bU dI aNITIAL_Z jJA bE aE cI bJA bE aE cI bO bU cO bU bWA dKHA bE aE cI bO bU cK
  aA bE aE cI bO bU dLA bE aE cHA bE aE cI bO bU cI bO bU cMA bE aE cI bO bU cNA bE aE cG bI bO bU
  cP aA bE aE cI bO bU cRA bE aE cI bO bU cSA bE aE cH aA bE aE cI bO bU cI bO bU cTHA bE aE cI bO
  bU cLA bE aE cHA bE aE cI bO bU cI bO bU cSA bE aE cI bO bU cTA bE aE cI bO bSA bE aE cI bO bU cU
  dWA bE aE cI bO bU cYA bE aE cI bO bU cZ aA bE aE cI bO bU jE bHI_SIGN hI aI cO aO cWA aA cE bI aI
  cO aO eE aASTERN_W iN cF aA aA aI dE bI aI bNAL_ACUTE fBOTTOM_HALF_RING qDOUBLE_ACUTE
  fSHORT_VERTICAL_STROKES zcWN_TACK jGRAVE fMIDDLE_DOT kPLUS eRAISED_DOT jIGHT_HALF_RING nNG
  eSHORT_HORIZONTAL_STROKE wMALL_RING kTOP_HALF_RING sO aO cULL_STOP iWAA eGLOTTAL_STOP mHK bYPHEN
  gI aI bN cK aA aA aI cY cE bI aI cO aO cW aA aA bY cE bI aI cO aO eL aA aA aI cY cE bH aA aA cI aI
  cO aO dI aI cO aO cWA aA cE bI aI cO aO eM aA aA aI cY cE aDIAL_L bR hH bI aI cO aO aSE-CREE_SK
  mWA aA cE bI aI cO aO eN a-CREE_THE bI aI kA aA aI cSKAPI_CWAA eKWAA eMWAA eNWAA eS-W cCWA dKW aA
  dPWA dTWA dWAA eTWAA eWAA cOO dYWAA kTTILIK_HA aA cI aI cO aO dSHRA aA cI aI cO aO mY cE bG aA aA
  aI cI cI aI cO aO dH bI aI cNG aA aA cI aI cO aO eO aO bY cUNAVIK_H aA aA cE bI aI cO aO gUT_H iWA
  aA cE bI aI cO aO eO aJIBWAY_C bK bM bN aWI aI cO aO eP bS aH cT iN bO bY cP aA aA aI cY cE bI aI
  cO aO bY cWA aA cE bI aI cO aO bY eQ aA aA aI cI cI aI cO aO dR a-CREE_RE bWE jA aA aI cY cE bI aI
  cO aO cWA aA cEE cI aI cO aO eS aA aA aI cY aISI_HA bE bI bO aO dJI bU aU dM bSHA bE bI bO aO cWE
  eTH cYI iE bH aA aA bY cE bI aI cO aO bY cWA aA cE bI aI cO aO bY eI aI cO aO bUTH-SLAVEY_KAH cEH
  cIH cOH oY cPA bE bI bO cW aA aA cE bI aI cO aO eT aA aA aI cY cE bH a-CREE_TH aA aA cE bI aI cO
  aO kA aA cE bI aI cO aO cWA aA cE dI aI cLHA bE bI bO aO cWE eO aO cTA bE bH aA aA cE bI bO aO cWE
  dI bO cWA aA cE bI aI cO aO dYA bE bI bO dWA aA bY cE aST-CREE_CWA aA cE bI aI cO aO eFWAA eKWA aA
  cE bI aI cO aO eL aA aA cE bO aO cWA aA cE bI aI cO aO eM aWA aA cE bI aI cO aO eNWA aA cE dP aWA
  aA cE bI aI cO aO eR aA bE bI bO bWAA eSHWA aA cE bI aI cO aO eWA aA cE bI aI cO aO eTHWAA eWA aA
  cE bI aI cO aO eWA aA cE bI aI cO aO dY aWA aA cE bI aI cO aO kERN_W iI aI cO aO aDS-CREE_FINAL_TH
  iTH aA bE bI bO bWA aA cEE cI aI cO aO qY a-CREE_COO dKOO dLOO dMOO dNOO dOO cPOO cWAA eSOO dTOO
  dW bYOO jA aA aI cY cE bI aI cO aO bY cWA aA cE bI aI cO aO uCEL a_CHARACTER jTAG eLATION_X jR
  dDLE cY cNED_FOOD iOE dPITULUM gRICORN hR_SLIDING iD_FILE_BOX iINDEX a_DIVIDERS qE_OF dT
  a_INSERTION_POINT sIAN_LETTER_A a2 cB bC-18 c39 eD a2 cE a2 cG a2 cI aI cK a2 cL aD a2 dM aB a2 b3
  b4 dN aD bG bN cO bP a2 cQ bR aR cS aH a2 cS bT a2 dT aT a2 dU aU aU a2 b3 bU eX mON bUSEL_HORSE
  lP_STREAMER jENTRY_SAW kRIAGE_RETURN lOT eSTLE eT a_FACE a_WITH_TEARS_OF_JOY mWRY_SMILE
  vUCASIAN_ALBANIAN_CITATION_MARK nLETTER_ALT cOR dBET dCAR bYN dHA aT cI bOY dYAW bY eDAT cYAN dZAY
  cYAY fEB bYN dFAM dGHEYS eIM dHEYT eINYA dRB cWN dJAYN dHOX eKAR cIW dLAN cYIT eMAQ dNOWC eON cPEN
  cIWR eQAR bY dRAT dSEYK dHA aK cOY eTAS cIWR dYAY eVEYZ eXEYN eYAYD dOWD eZARL dHA bIL zcTION_SIGN
  lCH cEDI_SIGN fLLA fLTIC_CROSS kNT_SIGN fRE_LINE_SYMBOL mLINE_LOW_LINE iOVERLINE rRES eGJ cHAINS
  cR cKMA_AU_MARK hDANDA eIGIT_EIGHT fFIVE dOUR eNINE eONE dSEVEN eIX dTHREE eWO dZERO jOUBLE_DANDA
  mLETTER_AA cBAA cHAA eCAA cHAA eDAA cDAA cHAA eHAA eE bGAA cHAA eHAA dI bJAA cHAA eKAA cHAA eLAA
  cHAA eMAA dNAA cGAA dNAA dYAA ePAA cHAA eRAA dSAA dTAA cHAA dTAA cHAA fU bVAA dWAA dYAA cYAA
  lMAAYYAA hO_MARK gQUESTION_MARK nSECTION_MARK lIGN_ANUSVARA iCANDRABINDU lVISARGA mVIRAMA
  fOWEL_SIGN_A aA bI bU cE aI cI aI cO aI cU aU rM_CONSONANT_SIGN_FINAL_H bM bNG iLA cRA cWA cYA
  rDIGIT_EIGHT fFIVE dOUR eNINE eONE dSEVEN eIX dTHREE eWO dZERO kLETTER_A aI cBA bBA cHA dCHA bHA
  eDA bDA cHA dE bFINAL_CH cG bK bL bN aG cP bR bSS cT bY hGA bHA dHA cI bJA bHA dKA bHA dLA cMA bUE
  dNA bGA bUE dHA bJA cUE dUE dO bPA bHA cPA dRA cSA bSA dTA bHA dU bVA cYA jPUNCTUATION_DANDA
  eOUBLE_DANDA mSPIRAL gTRIPLE_DANDA yVOWEL_SIGN_AA bI bU cEI cI aI cO aE cU aE pRACTER_TABULATION
  a_SET dWITH_JUSTIFICATION zdIE jT_WITH_DOWNWARDS_TREND pUPWARDS_TREND a_AND_YEN_SIGN zkECK_MARK
  fER_BOARD a_FILL pERING_MEGAPHONE oSE_WEDGE jQUERED_FLAG lROKEE_LETTER_A bDA bE bI bLA cO bU bV cE
  bGA bE bI bO bU bV cHA bE bI bNA cO bU bV cI bKA cLA bE bI bO bU bV cMA bE bI bO bU bV cNA aH cE
  bI bO bU bV cO bQUA bE bI bO bU bV dS aA bE bI bO bU bV cTA bE bI bLA bE bI bO bU bV cSA bE bI bO
  bU bV dU bV bWA bE bI bO bU bV cYA bE bI bO bU bV jSMALL_LETTER_A bDA bE bI bLA cO bU bV cE bGA bE
  bI bO bU bV cHA bE bI bNA cO bU bV cI bKA cLA bE bI bO bU bV cMA bE bI bO bU bV cNA aH cE bI bO bU
  bV cO bQUA bE bI bO bU bV dS aA bE bI bO bU bV cTA bE bI bLA bE bI bO bU bV cSA bE bI bO bU bV dU
  bV bWA bE bI bO bU bV cYA bE bI bO bU bV uRIES dY_BLOSSOM lSTNUT gI_RHO eCKEN eLD aREN_CROSSING
  oPMUNK fRON eOCOLATE_BAR kPSTICKS hRASMIAN_LETTER_ALEPH eYIN eBETH eCURLED_WAW kDALETH gGIMEL fHE
  aTH eKAPH eLAMEDH gMEM dNUN dPE cRESH eSAMEKH fHIN dMALL_ALEPH lTAW dWAW dYODH eZAYIN mNUMBER_FOUR
  eONE a_HUNDRED lTEN cHREE eWENTY eO tRISTMAS_TREE mURCH fINEMA
  eRCLE_DIVIDED_BY_HORIZONTAL_BAR_AND_TOP_HALF_DIVIDED_BY_VERTICAL_BAR
  zzmWITH_ALL_BUT_UPPER_LEFT_QUADRANT_BLACK ziHORIZONTAL_BAR oLEFT_HALF_BLACK oOWER_HALF_BLACK
  qRIGHT_HALF_BLACK qSMALL_CIRCLE_TO_THE_RIGHT yUPERIMPOSED_X oTWO_HORIZONTAL_STROKES_TO_THE_RIGHT
  zkUPPER_HALF_BLACK kRIGHT_QUADRANT_BLACK zbVERTICAL_FILL tD_ANTICLOCKWISE_ARROW
  g-ROTATED_DIVISION_SIGN zjSTERISK_OPERATOR rBOLD_X fULLET gC_WITH_OVERLAID_BACKSLASH yC bD
  bROSS_FORMEE a_WITH_FOUR_DOTS jTWO_DOTS uPOMMEE hING_LANES oDASH dIGIT_EIGHT fFIVE dOUR eNINE eONE
  dSEVEN eIX dTHREE eWO dZERO iVISION_SIGN dLASH nOLLAR_SIGN_WITH_OVERLAID_BACKSLASH ziT_OPERATOR
  mEQUALS gGREATER-THAN mHANGUL_CHIEUCH a_A iIEUC a_A hHIEUH a_A hIEUNG a_A bU hKHIEUKH a_A iIYEOK
  a_A iMIEUM a_A hNIEUN a_A hPHIEUPH a_A iIEUP a_A hRIEUL a_A hSIOS a_A gTHIEUTH a_A iIKEUT a_A
  oEAVY_WHITE_RIGHTWARDS_ARROW zcORIZONTAL_BAR_WITH_NOTCH yUMAN_FIGURE mIDEOGRAPH_ACCEPT fDVANTAGE
  iLLIANCE hTTENTION jCENTRE fONGRATULATION mPY cRRECT hEARTH eIGHT eNTERPRISE jXCELLENT jFEMALE
  fINANCIAL hRE cVE dOUR eHAVE dIGH eITEM eKINDERGARTEN lOTO eLABOR eEFT dOW dMALE dEDICINE gTAL
  eOON eNAME dIGHT dNE eONE dPRINT fQUESTION iRELIGION gSOURCE fT dIGHT fSCHOOL fECRET eVEN eIX
  cOCIETY gPECIAL gTOCK dUDY eUITABLE gN bPERVISE jTEN cHREE eWO dWATER eOOD nNFORMATION_SOURCE
  rTALIC_LATIN_CAPITAL_LETTER_C bR zeKATAKANA_A bE bHA bE bI bO bU cI bKA bE bI bO bU cMA bE bI bO
  bU cNA bE bI bO bU cO bRA bE bI bO bU cSA bE bI bO bU cTA bE bI bO bU cU bWA bE bI bO cYA bO bU
  kOREAN_CHARACTER_CHAMKO gJUEUI wLATIN_CAPITAL_LETTER_A bB bC bD bE bF bG bH bI bJ bK bL bM bN bO
  bP bQ bR bS bT bU bV bW bX bY bZ qSMALL_LETTER_A bB bC bD bE bF bG bH bI bJ bK bL bM bN bO bP bQ
  bR bS bT bU bV bW bX bY bZ tESS-THAN jMINUS eULTIPLICATION_SIGN_WITH_CIRCUMFLEX_ACCENT
  zrNUMBER_EIGHTEEN dY_ON_BLACK_SQUARE vLEVEN gFIFTEEN dY a_ON_BLACK_SQUARE uORTY a_EIGHT fFIVE dOUR
  eNINE eON_BLACK_SQUARE nE dSEVEN eIX dTHREE eWO hURTEEN iNINETEEN iSEVENTEEN dY_ON_BLACK_SQUARE
  wIXTEEN dY_ON_BLACK_SQUARE vTEN a_ON_BLACK_SQUARE sHIRTEEN dY a_EIGHT fFIVE dOUR eNINE
  eON_BLACK_SQUARE nE dSEVEN eIX dTHREE eWO jWELVE dNTY a_EIGHT fFIVE dOUR eNINE eON_BLACK_SQUARE nE
  dSEVEN eIX dTHREE eWO rOPEN_CENTRE_EIGHT_POINTED_STAR zfPARALLEL hERPENDICULAR mLUS dOSTAL_MARK
  lREVERSE_SOLIDUS oING_OPERATOR nSQUARE gTIMES eRIANGLE a_DOWN nVERTICAL_BAR mWHITE_BULLET gSTAR jZ
  cX bZERO_WITH_SLASH tULATION_FUNCTION pMFLEX_ACCENT mS_TENT jTYSCAPE a_AT_DUSK
  qJK_COMPATIBILITY_IDEOGRAPH-2F800 b1 b2 b3 b4 b5 b6 b7 b8 b9 bA bB bC bD bE bF c10 b1 b2 b3 b4 b5
  b6 b7 b8 b9 bA bB bC bD bE bF c20 b1 b2 b3 b4 b5 b6 b7 b8 b9 bA bB bC bD bE bF c30 b1 b2 b3 b4 b5
  b6 b7 b8 b9 bA bB bC bD bE bF c40 b1 b2 b3 b4 b5 b6 b7 b8 b9 bA bB bC bD bE bF c50 b1 b2 b3 b4 b5
  b6 b7 b8 b9 bA bB bC bD bE bF c60 b1 b2 b3 b4 b5 b6 b7 b8 b9 bA bB bC bD bE bF c70 b1 b2 b3 b4 b5
  b6 b7 b8 b9 bA bB bC bD bE bF c80 b1 b2 b3 b4 b5 b6 b7 b8 b9 bA bB bC bD bE bF c90 b1 b2 b3 b4 b5
  b6 b7 b8 b9 bA bB bC bD bE bF cA0 b1 b2 b3 b4 b5 b6 b7 b8 b9 bA bB bC bD bE bF cB0 b1 b2 b3 b4 b5
  b6 b7 b8 b9 bA bB bC bD bE bF cC0 b1 b2 b3 b4 b5 b6 b7 b8 b9 bA bB bC bD bE bF cD0 b1 b2 b3 b4 b5
  b6 b7 b8 b9 bA bB bC bD bE bF cE0 b1 b2 b3 b4 b5 b6 b7 b8 b9 bA bB bC bD bE bF cF0 b1 b2 b3 b4 b5
  b6 b7 b8 b9 bA bB bC bD bE bF d900 b1 b2 b3 b4 b5 b6 b7 b8 b9 bA bB bC bD bE bF c10 b1 b2 b3 b4 b5
  b6 b7 b8 b9 bA bB bC bD bE bF c20 b1 b2 b3 b4 b5 b6 b7 b8 b9 bA bB bC bD bE bF c30 b1 b2 b3 b4 b5
  b6 b7 b8 b9 bA bB bC bD bE bF c40 b1 b2 b3 b4 b5 b6 b7 b8 b9 bA bB bC bD bE bF c50 b1 b2 b3 b4 b5
  b6 b7 b8 b9 bA bB bC bD bE bF c60 b1 b2 b3 b4 b5 b6 b7 b8 b9 bA bB bC bD bE bF c70 b1 b2 b3 b4 b5
  b6 b7 b8 b9 bA bB bC bD bE bF c80 b1 b2 b3 b4 b5 b6 b7 b8 b9 bA bB bC bD bE bF c90 b1 b2 b3 b4 b5
  b6 b7 b8 b9 bA bB bC bD bE bF cA0 b1 b2 b3 b4 b5 b6 b7 b8 b9 bA bB bC bD bE bF cB0 b1 b2 b3 b4 b5
  b6 b7 b8 b9 bA bB bC bD bE bF cC0 b1 b2 b3 b4 b5 b6 b7 b8 b9 bA bB bC bD bE bF cD0 b1 b2 b3 b4 b5
  b6 b7 b8 b9 bA bB bC bD bE bF cE0 b1 b2 b3 b4 b5 b6 b7 b8 b9 bA bB bC bD bE bF cF0 b1 b2 b3 b4 b5
  b6 b7 b8 b9 bA bB bC bD bE bF dA00 b1 b2 b3 b4 b5 b6 b7 b8 b9 bA bB bC bD bE bF c10 b1 b2 b3 b4 b5
  b6 b7 b8 b9 bA bB bC bD fF900 b1 b2 b3 b4 b5 b6 b7 b8 b9 bA bB bC bD bE bF c10 b1 b2 b3 b4 b5 b6
  b7 b8 b9 bA bB bC bD bE bF c20 b1 b2 b3 b4 b5 b6 b7 b8 b9 bA bB bC bD bE bF c30 b1 b2 b3 b4 b5 b6
  b7 b8 b9 bA bB bC bD bE bF c40 b1 b2 b3 b4 b5 b6 b7 b8 b9 bA bB bC bD bE bF c50 b1 b2 b3 b4 b5 b6
  b7 b8 b9 bA bB bC bD bE bF c60 b1 b2 b3 b4 b5 b6 b7 b8 b9 bA bB bC bD bE bF c70 b1 b2 b3 b4 b5 b6
  b7 b8 b9 bA bB bC bD bE bF c80 b1 b2 b3 b4 b5 b6 b7 b8 b9 bA bB bC bD bE bF c90 b1 b2 b3 b4 b5 b6
  b7 b8 b9 bA bB bC bD bE bF cA0 b1 b2 b3 b4 b5 b6 b7 b8 b9 bA bB bC bD bE bF cB0 b1 b2 b3 b4 b5 b6
  b7 b8 b9 bA bB bC bD bE bF cC0 b1 b2 b3 b4 b5 b6 b7 b8 b9 bA bB bC bD bE bF cD0 b1 b2 b3 b4 b5 b6
  b7 b8 b9 bA bB bC bD bE bF cE0 b1 b2 b3 b4 b5 b6 b7 b8 b9 bA bB bC bD bE bF cF0 b1 b2 b3 b4 b5 b6
  b7 b8 b9 bA bB bC bD bE bF dA00 b1 b2 b3 b4 b5 b6 b7 b8 b9 bA bB bC bD bE bF c10 b1 b2 b3 b4 b5 b6
  b7 b8 b9 bA bB bC bD bE bF c20 b1 b2 b3 b4 b5 b6 b7 b8 b9 bA bB bC bD bE bF c30 b1 b2 b3 b4 b5 b6
  b7 b8 b9 bA bB bC bD bE bF c40 b1 b2 b3 b4 b5 b6 b7 b8 b9 bA bB bC bD bE bF c50 b1 b2 b3 b4 b5 b6
  b7 b8 b9 bA bB bC bD bE bF c60 b1 b2 b3 b4 b5 b6 b7 b8 b9 bA bB bC bD c70 b1 b2 b3 b4 b5 b6 b7 b8
  b9 bA bB bC bD bE bF c80 b1 b2 b3 b4 b5 b6 b7 b8 b9 bA bB bC bD bE bF c90 b1 b2 b3 b4 b5 b6 b7 b8
  b9 bA bB bC bD bE bF cA0 b1 b2 b3 b4 b5 b6 b7 b8 b9 bA bB bC bD bE bF cB0 b1 b2 b3 b4 b5 b6 b7 b8
  b9 bA bB bC bD bE bF cC0 b1 b2 b3 b4 b5 b6 b7 b8 b9 bA bB bC bD bE bF cD0 b1 b2 b3 b4 b5 b6 b7 b8
  b9 zdRADICAL_BAMBOO fLUE dOLT_OF_CLOTH lNE cX cRUSH_ONE dTWO jC-SIMPLIFIED_BIRD eCART eDRAGON gEAT
  cVEN eFISH dLY cROG eGATE dOLD eHORSE fLEAF dONG eSALT dEE cHELL eILK dPEECH gTANNED_LEATHER nOOTH
  eURTLE gWIND qHOKE eITY cVILIAN hLIFF dOTHES gOW dDEATH eIVINATION jOG dEAT_ONE dTHREE eWO gWE cYE
  dFIRE dOOT eGHOST eRASS_ONE dTHREE eWO jHAND dEAD bRT_ONE dTWO iORN eJ-SIMPLIFIED_DRAGON gEVEN
  eTOOTH eURTLE sADE eKNIFE_ONE dTWO jLAME_FOUR eONE dTHREE eWO hONG_ONE dTWO iMEAT cSH dOON cRTAR
  eTHER eUND_ONE dTWO jNET_FOUR eONE dTHREE eWO hOLD dPAW_ONE dTWO gERSON gRAIN cM bP cEPEAT gSEAL
  cCOND_ONE dTHREE eWO jHEEP eILK cMPLIFIED_HALF_TREE_TRUNK oORN eWALK dHEAT fYELLOW qMALL_ONE dTWO
  iNAKE dOUT_ONE dTWO iPIRIT_ONE dTWO jUN dTABLE eHREAD fIGER eURTLE gWALK_ONE dTWO gTER_ONE dTWO
  iEST_ONE dTWO qSTROKE_BXG dD bH aG bP aWG dXWG dZ aG bT bW aG cZ aP bZ aG fN bP aD bG bZ cQ bS aG
  bP bT bW aG bZ cZ aWG cZ dT aN cWG cXG mLAMSHELL_MOBILE_PHONE tPPER_BOARD iING_HANDS_SIGN
  qSSICAL_BUILDING qEAR_SCREEN_SYMBOL rINKING_BEER_MUGS jGLASSES nPBOARD hOCK_FACE_EIGHT_OCLOCK
  h-THIRTY lLEVEN_OCLOCK h-THIRTY nFIVE_OCLOCK h-THIRTY kOUR_OCLOCK h-THIRTY lNINE_OCLOCK h-THIRTY
  lONE_OCLOCK h-THIRTY kSEVEN_OCLOCK h-THIRTY lIX_OCLOCK h-THIRTY kTEN_OCLOCK h-THIRTY jHREE_OCLOCK
  h-THIRTY lWELVE_OCLOCK h-THIRTY lO_OCLOCK h-THIRTY qWISE_CLOSED_CIRCLE_ARROW sONTOUR_INTEGRAL
  qDOWNWARDS_AND_UPWARDS_OPEN_CIRCLE_ARROWS zpGAPPED_CIRCLE_ARROW tINTEGRAL iOPEN_CIRCLE_ARROW
  rRIGHT_AND_LEFT_SEMICIRCLE_ARROWS zcWARDS_AND_LEFTWARDS_OPEN_CIRCLE_ARROWS
  a_WITH_CIRCLED_ONE_OVERLAY zzsTOP_SEMICIRCLE_ARROW tRIANGLE-HEADED_OPEN_CIRCLE_ARROW zpSE_UP
  dD_BOOK eINTERSECTION_WITH_SERIFS yLOCK_WITH_KEY nMAILBOX_WITH_LOWERED_FLAG mRAISED_FLAG ySUBSET
  a_OR_EQUAL_TO qPERSET a_OR_EQUAL_TO uUMBRELLA hNION_WITH_SERIFS a_AND_SMASH_PRODUCT zoUD
  a_WITH_LIGHTNING jRAIN eSNOW eTORNADO pWN_FACE jOAT cCKROACH fTAIL_GLASS lONUT fFFIN eIN
  cLLISION_SYMBOL nON a_EQUALS gSIGN iMBINING_ACUTE_ACCENT a_BELOW mTONE_MARK k-GRAVE-ACUTE lMACRON
  lLMOST_EQUAL_TO_ABOVE fBELOW uNNUITY_SYMBOL mTICLOCKWISE_ARROW_ABOVE lRING_OVERLAY zSTERISK_ABOVE
  fBELOW oBINDU_BELOW kREVE a_BELOW g-MACRON kIDGE_ABOVE fBELOW mCANDRABINDU jRON a_BELOW kEDILLA
  gIRCUMFLEX_ACCENT a_BELOW wLOCKWISE_ARROW_ABOVE lRING_OVERLAY vOMMA_ABOVE a_RIGHT lBELOW
  jNJOINING_MACRON a_BELOW wYRILLIC_DASIA_PNEUMATA oHUNDRED_MILLIONS_SIGN nTHOUSANDS_SIGN wKAVYKA
  gLETTER_A bBE bIG_YUS hCHE dDE bJERV fEF bL bM bN bR bS a-TE fFITA eGHE dHA aRD_SIGN jI aE
  bOTIFIED_A bBIG_YUS hE kKA cLITTLE_YUS kMONOGRAPH_UK mO aMEGA fPE cSHA bCHA eOFT_SIGN jTE bSE dU
  aKRAINIAN_IE mVE cYAT cERU dI bU cZE bHE kMILLIONS_SIGN nPALATALIZATION mYEROK gOKRYTIE
  hSILI_PNEUMATA oTEN_MILLIONS_SIGN qHOUSAND_MILLIONS_SIGN vITLO a_LEFT_HALF jRIGHT_HALF qVZMET
  oDELETION_MARK lVANAGARI_DIGIT_EIGHT fFIVE dOUR eNINE eONE dSEVEN eIX dTHREE eWO dZERO kLETTER_A
  bKA cNA cPA cRA cU bVI jSIGN_AVAGRAHA xIAERESIS a_BELOW g-RING nOT_ABOVE a_LEFT eRIGHT lBELOW
  a_LEFT lTED_ACUTE_ACCENT mGRAVE_ACCENT rUBLE_ACUTE_ACCENT mBREVE a_BELOW lCIRCUMFLEX_ABOVE
  qGRAVE_ACCENT mINVERTED_BREVE a_BELOW uLOW_LINE iMACRON a_BELOW mOPEN_MARK_BELOW oVERLINE
  iPARENTHESES_ABOVE qLUS_SIGN_ABOVE fBELOW pRIGHTWARDS_ARROW_BELOW uNG_BELOW kTILDE a_LEFT_HALF
  jRIGHT_HALF qVERTICAL_LINE_ABOVE fBELOW kSTROKE_OVERLAY yD_CIRCUMFLEX_ACCENT xWN_TACK_BELOW
  lWARDS_ARROW pENCLOSING_CIRCLE a_BACKSLASH qDIAMOND hKEYCAP gSCREEN fQUARE
  gUPWARD_POINTING_TRIANGLE ziQUALS_SIGN_BELOW rFERMATA gOUR_DOTS_ABOVE pGLAGOLITIC_LETTER_AZU
  dBIG_YUS gUKY eCHRIVI gDJERVI fOBRO fFITA dRITU fGLAGOLI hHERU eI aNITIAL_IZHE lOTATED_BIG_YUS
  hSMALL_YUS qZHE eKAKO eLJUDIJE hMYSLITE hNASHI fONU dPOKOJI gRITSI fSHA bTA dLOVO eMALL_YUS jTSI
  cVRIDO gUKU dVEDE eYATI dERI bU cSTU eO bU cZEMLJA fHIVETE yRANTHA_DIGIT_FIVE dOUR eONE dSIX
  dTHREE eWO dZERO kLETTER_A bKA cNA cPA cVI oPHEME_JOINER mVE_ACCENT a_BELOW mTONE_MARK
  k-ACUTE-GRAVE lMACRON kEEK_DIALYTIKA_TONOS pKORONIS hMUSICAL_PENTASEME jTETRASEME iRISEME
  pPERISPOMENI lYPOGEGRAMMENI tHOMOTHETIC_ABOVE oOK_ABOVE iRN eINFINITY gVERTED_BREVE a_BELOW
  jIDGE_BELOW mDOUBLE_ARCH_ABOVE fBELOW zS_BELOW iKATAKANA-HIRAGANA_SEMI-VOICED_SOUND_MARK
  wVOICED_SOUND_MARK ziVYKA_ABOVE_LEFT eRIGHT sLATIN_LETTER_SMALL_CAPITAL_G bL bM bN bR
  wSMALL_LETTER_A a_WITH_DIAERESIS pE bLPHA eO bV cB aETA eC a_CEDILLA jD bE aSH cTH dF
  aLATTENED_OPEN_A_ABOVE wG bH bI aNSULAR_D bG bR bT jK bL a_WITH_DOUBLE_MIDDLE_TILDE zONG_S gM bN
  bO a_WITH_DIAERESIS jLIGHT_CENTRALIZATION_STROKE zjP bR a_BELOW fROTUNDA jS aCHWA fT
  aURNED_W_BELOW oU a_WITH_DIAERESIS jLIGHT_CENTRALIZATION_STROKE zjV bW a_BELOW hX bZ
  tEFT_ANGLE_ABOVE fBELOW kRROW_ABOVE fBELOW gHEAD_ABOVE fBELOW pHALF_RING_ABOVE fBELOW nRPOON_ABOVE
  nPARENTHESIS_ABOVE_LEFT kBELOW_LEFT wRIGHT_ARROW_ABOVE fBELOW rTACK_BELOW lWARDS_ARROW_OVERLAY
  nHARPOON_WITH_BARB_DOWNWARDS zlIGATURE_LEFT_HALF a_BELOW pRIGHT_HALF a_BELOW
  wHT_CENTRALIZATION_STROKE_BELOW zhONG_DOUBLE_SOLIDUS_OVERLAY wSOLIDUS_OVERLAY oTROKE_OVERLAY
  oVERTICAL_LINE_OVERLAY yW_LINE iMACRON a_BELOW fLEFT_HALF a_BELOW pRIGHT_HALF a_BELOW r-ACUTE
  fBREVE fGRAVE lINUS_SIGN_BELOW qNOT_TILDE_ABOVE oUMBER_SIGN_ABOVE rOGONEK a_ABOVE
  lLD_PERMIC_LETTER_AN cDOI dNENOE fSII dZATA vPEN_MARK_BELOW oVERLINE iPALATALIZED_HOOK_BELOW
  uRENTHESES_ABOVE fBELOW fOVERLAY sLUS_SIGN_ABOVE fBELOW pRETROFLEX_HOOK_BELOW
  sVERSE_SOLIDUS_OVERLAY qD_COMMA_ABOVE tIGHT_ARROW_ABOVE fBELOW gHEAD_ABOVE
  eND_DOWN_ARROWHEAD_BELOW uUP_ARROWHEAD_BELOW wBELOW pHALF_RING_ABOVE fBELOW nRPOON_ABOVE
  nPARENTHESIS_ABOVE_RIGHT lBELOW_RIGHT xTACK_BELOW lWARDS_HARPOON_WITH_BARB_DOWNWARDS zlNG_ABOVE
  fBELOW fOVERLAY mSEAGULL_BELOW mHORT_SOLIDUS_OVERLAY oTROKE_OVERLAY oVERTICAL_LINE_OVERLAY
  zbNAKE_BELOW kQUARE_BELOW eRACKETS_ABOVE uTRONG_CENTRALIZATION_STROKE_BELOW ziUSPENSION_MARK
  pTHREE_DOTS_ABOVE pILDE a_BELOW fLEFT_HALF_BELOW pOVERLAY hRIGHT_HALF_BELOW vRIPLE_ACUTE_ACCENT
  mDOT dUNDERDOT oURNED_COMMA_ABOVE sUP_TACK_ABOVE fBELOW lWARDS_ARROW_BELOW sR_ABOVE hS_ABOVE
  iVERTICAL_LINE_ABOVE fBELOW kTILDE oWIDE_BRIDGE_ABOVE mINVERTED_BRIDGE_BELOW yGGLY_LINE_BELOW
  rX_ABOVE fBELOW g-X_BELOW jZIGZAG_ABOVE fBELOW tET cMA bERCIAL_AT cMINUS_SIGN sPASS dLEMENT
  gOSITION_SYMBOL oRESSION jNFETTI_BALL jOUNDED_FACE lUSED_FACE kGRUENT_WITH_DOT_ABOVE vICAL_TAPER
  kJUNCTION iSTRUCTION_SIGN eWORKER qTAINS_AS_MEMBER gNORMAL_SUBGROUP a_OR_EQUAL_TO
  zfWITH_LONG_HORIZONTAL_STROKE wOVERBAR hVERTICAL_BAR_AT_END_OF_HORIZONTAL_STROKE
  zzINUOUS_UNDERLINE_SYMBOL xOUR_INTEGRAL mROL_KNOBS fSEQUENCE_INTRODUCER yVENIENCE_STORE pOKED_RICE
  hIE bNG fPTIC_CAPITAL_LETTER_AKHMIMIC_KHEI mLFA eBOHAIRIC_KHEI nCROSSED_SHEI kYPTOGRAMMIC_EIE
  dGANGIA gNI cSHEI sDALDA eEI cIALECT-P_ALEF eHORI eKAPA eNI mEIE dFEI cI cGAMMA dNGIA gHATE dORI
  eIAUDA fKAPA dHEI cI cSI dL-SHAPED_HA kAULA fMI cNI cO aLD_COPTIC_AIN dDJA dESH dGANGIA gHA aT cEI
  cORI eOOU dSHEI cIMA mNUBIAN_NGI cYI dSHIMA fWAU nOU dPI bSI dRO cSAMPI eHEI cIMA eIMA dOU dTAU
  cHETHE gUA cVIDA eZATA sOMBINING_NI_ABOVE iSPIRITUS_ASPER fLENIS yEPACT_DIGIT_EIGHT fFIVE dOUR
  eNINE eONE dSEVEN eIX dTHREE eWO jNUMBER_EIGHT_HUNDRED iY gFIFTY dVE_HUNDRED lORTY dUR_HUNDRED
  mNINE_HUNDRED iTY gONE_HUNDRED lSEVEN_HUNDRED iTY gIX_HUNDRED iTY fTEN cHIRTY eREE_HUNDRED mWENTY
  eO_HUNDRED sTHOUSANDS_MARK uFRACTION_ONE_HALF qULL_STOP jMORPHOLOGICAL_DIVIDER
  vOLD_NUBIAN_DIRECT_QUESTION_MARK uFULL_STOP jINDIRECT_QUESTION_MARK wVERSE_DIVIDER
  ySMALL_LETTER_AKHMIMIC_KHEI mLFA eBOHAIRIC_KHEI nCROSSED_SHEI kYPTOGRAMMIC_EIE dGANGIA gNI cSHEI
  sDALDA eEI cIALECT-P_ALEF eHORI eKAPA eNI mEIE dFEI cI cGAMMA dNGIA gHATE dORI eIAUDA fKAPA dHEI
  cI cSI dL-SHAPED_HA kAULA fMI cNI cO aLD_COPTIC_AIN dDJA dESH dGANGIA gHA aT cEI cORI eOOU dSHEI
  cIMA mNUBIAN_NGI cYI dSHIMA fWAU nOU dPI bSI dRO cSAMPI eHEI cIMA eIMA dOU dTAU cHETHE gUA cVIDA
  eZATA qYMBOL_KAI cHI_RO gMI_RO fPI_RO fSHIMA_SIMA jTAUROS hTAU_RO rYLEFT_SYMBOL lRIGHT_SIGN mRAL
  cNISH_VERSE_DIVIDER sRESPONDS_TO mUCH_AND_LAMP lNTERBORE eSINK gING_ROD_TENS_DIGIT_EIGHT fFIVE
  dOUR eNINE eONE dSEVEN eIX dTHREE eWO oUNIT_DIGIT_EIGHT fFIVE dOUR eNINE eONE dSEVEN eIX dTHREE
  eWO yPLE_WITH_HEART pW a_FACE hR aAB cEDIT_CARD iSCENT_MOON lICKET a_BAT_AND_BALL sOCODILE gISSANT
  gSS_MARK eOF_JERUSALEM jLORRAINE lPATTY_WITH_LEFT_CROSSBAR nRIGHT_CROSSBAR yOMMEE
  a_WITH_HALF-CIRCLE_BELOW zfED_FLAGS fNEGATIVE_SQUARED_LATIN_CAPITAL_LETTER_P zoSWORDS jING_LANES
  lWN dUTCH dZEIRO_SIGN lYING_CAT_FACE iFACE iSTAL_BALL lSI cUBE_ROOT hCUMBER
  gNEIFORM_NUMERIC_SIGN_EIGHT_ASH dDISH eGESH2 fSHAR2 fU a_VARIANT_FORM oVARIANT_FORM_USSU a3
  xLAMITE_FIFTY eORTY fONE_THIRD jTWO_THIRDS sFIVE_ASH a_TENU iBAN2 a_VARIANT_FORM qURU eDISH eGESH2
  bU fSHAR2 bU eIXTHS_DISH lU a_VARIANT_FORM sOUR_ASH a_TENU iBAN2 a_VARIANT_FORM qURU eDISH eGESH2
  bU fSHAR2 bU fU a_VARIANT_FORM oVARIANT_FORM_LIMMU a_A bB c4 yNIGIDAESH dMIN hNE_ASH dDISH eGESH2
  fSHAR2 fU a_VARIANT_FORM oVARIANT_FORM_ILIMMU a_A c3 b4 zOLD_ASSYRIAN_ONE_QUARTER hSIXTH vNE_BAN2
  dURU eEIGHTH_ASH jSHE3 fGESH2 bU fHALF_GUR iQUARTER_ASH dGUR lSHARU fTHIRD_DISH eVARIANT_FORM_A
  ySEVEN_ASH dDISH eGESH2 fSHAR2 fU a_VARIANT_FORM oVARIANT_FORM_IMIN_A bB c3
  xHAR2_TIMES_GAL_PLUS_DISH eMIN xIX_ASH a_TENU iDISH eGESH2 fSHAR2 fU a_VARIANT_FORM
  oVARIANT_FORM_ASH9 vTHREE_ASH a_TENU iBAN2 dURU a_VARIANT_FORM rDISH eGESH2 bU fSHAR2
  a_VARIANT_FORM oU a_VARIANT_FORM sVARIANT_FORM_ESH16 c21 xWO_ASH a_TENU iBAN2 dURU eESHE3 fGESH2
  bU fSHAR2 bU fTHIRDS_DISH eVARIANT_FORM_A znPUNCTUATION_SIGN_DIAGONAL_COLON fQUADCOLON jTRICOLON
  rOLD_ASSYRIAN_WORD_DIVIDER zVERTICAL_COLON zgSIGN_A a_TIMES_A bBAD dGAN2_TENU jHA cIGI dLAGAR_GUNU
  kMUSH eSAG k2 bB a_GUNU eTIMES_ASH2 eDUN3_GUNU jGAL bN2_TENU jHA cIGI_GUNU hMIN eLAGAB fNUN a_TENU
  iSHESH dU2 eU_PLUS_U_PLUS_U w2 a_TIMES_A bBALAG fGAN2_TENU jME_PLUS_EN kSHA3 eTAK4 nD a_TIMES_ESH2
  mK a_TIMES_ERIN2 fSHITA_PLUS_GISH xL a_TIMES_AL cDIM2 eGISH eHA cKAD3 dI cSHE dUSH kAN cEPH eMAR
  a_TIMES_KUG dSHE nN a_OVER_AN hPLUS_NAGA_OPPOSING_AN_PLUS_NAGA vSQUARED rTHREE_TIMES mSHE ePIN
  dRAD a_TIMES_KUR mKAB eSAL2 dH a_KABA_TENU jOVER_ASH_OVER_ASH a_CROSSING_ASH_OVER_ASH_OVER_ASH
  zoTUG2_OVER_TUG2_TUG2_OVER_TUG2_PAP zrZIDA_TENU k2 bGAB gBA aD a_TIMES_DISH_TENU rG3 cHAR2
  a_TIMES_AB2 dNI cZA nL a_OVER_BAL jAG dR aA2 eI a_TIMES_A bGAR dIGI_GUNU qU a_CROSSING_BU
  lOVER_BU_AB cTIMES_NA2 jUN lLUG a_OVER_BULUG oR a2 eDA a_TIMES_TAK4 lG a_KISIM5_TIMES_A_PLUS_MASH
  kMAR eBALAG eI cGA a_PLUS_MASH lI aR2 dUD dHA cIR a_PLUS_LU kKAK dLA bU a_PLUS_MASH2 lM dNE
  cPAP_PLUS_PAP mSI cTAK4 eU2_PLUS_GIR2 eMASH lSH qTIMES_KUR k3 cM bR aA3 b4 eI aB bM a_TIMES_IGI
  dSHE dU_U_U m2 a_TIMES_UD lN a_KASKAL_U_GUNU_DISH uSH a_PLUS_SHU mU a_GUNU eOVER_DU hSHESHIG iB
  a_TIMES_ESH2 eSHE k2 cG a_TIMES_ANSHE eSH a_AT_LEFT lDIN cUN dERIN2 fGA bI aR2_GUNU hSH eHA bI
  cIGI_GUNU iKASKAL fUR bSHU2 a_PLUS_KASKAL sLAK-020 fM a_TIMES_KUR mUH_PLUS_GISH nMASH dES cI cNI
  cPI cSHE cI_GUNU oUD dH bN a3 a_GUNU a_GUNU l4 cR2 eE a_OVER_E_NUN_OVER_NUN tTIMES_PAP k2
  a_TIMES_A_PLUS_HA_PLUS_DA rGAR dKUR dMI cPAP dSAL cHE dU jDIN dGIR dL bN a_CROSSING_EN
  lOPPOSING_EN lSQUARED hTIMES_GAN2 a_TENU jME kREN cIN2 a_X gSH2 a_CROSSING_ESH2 rZEN
  a_SHESHIG_TIMES_ASH dHI cIGI_GUNU iLA aL dME aS dSU qTIMES_A a_PLUS_LAL a_TIMES_LAL tN cBAD
  dDUN3_GUNU a_GUNU oGUD dHA a_GUNU hIGI_GUNU iKASKAL a_SQUARED nU3 dLA aL_TIMES_LAL mI bU cSHE cU
  cU2 bD nGA a_GUNU f2 a_OVER_GA2 iTIMES_A_PLUS_DA_PLUS_HA kHA cIGI jB2_TENU_PLUS_TAB qN
  a_PLUS_KAK_PLUS_A rSH a2 a_PLUS_GAL nBAD bHAR2 eR_PLUS_RA kUR a_PLUS_RA lDA bI aM_GUNU eTIMES_SHE
  mUB bG_TIMES_IGI_GUNU iKASKAL qEL a_PLUS_LA jN a_TIMES_GAN2_TENU rREN eGA aN2_TENU hR a_PLUS_DI
  cNE kI a4 a_PLUS_A iR2_PLUS_SU mHA_PLUS_A bLU_PLUS_ESH2 sL a_PLUS_LA kI_PLUS_LI jUB2 eIGI_GUNU
  hSH_PLUS_HU_PLUS_ASH uKAK bSKAL fID a_PLUS_LAL lU3_PLUS_AN jSHU2_PLUS_KASKAL sLA aM a_TIMES_KUR
  mUH dME_PLUS_EN jI bUSH eNE a_PLUS_E2 cGI jUN a_OVER_NUN mPA cSAL bR cHE a_PLUS_TUR kID bM dUM
  dTAK4 eU aD a_PLUS_DU kZIZ2 mBA a_CROSSING_GABA nROTATED_NINETY_DEGREES zD a_OVER_GAD_GAR_OVER_GAR
  xL a_GAD_OVER_GAD_GAR_OVER_GAR zbAM dM bN a2 a_CROSSING_GAN2 nOVER_GAN2 jTENU hR a3 cSHAN fE22
  cSHTIN a_TIMES_KUR dU oI a_CROSSING_GI lTIMES_E bU i4 a_CROSSING_GI4 mOVER_GI4 kDIM dG bR2 a_GUNU
  g3 a_TIMES_A_PLUS_IGI kGAN2_TENU jIGI dLU_PLUS_IGI lPA lSAL cH a_CROSSING_GISH nTENU dIMES_BAD
  dGISH_CROSSING_GISH sTAK4 oU a_CROSSING_GU m2 a_GUNU eTIMES_IGI_GUNU iKAK a_TIMES_IGI_GUNU sNUN
  dSAL_PLUS_TUG2 vD a_OVER_GUD_LUGAL oPLUS_GISH_TIMES_TAK4 uTIMES_A_PLUS_KUR kKUR lL bM a_TIMES_SHE
  lR a7 bUN bSH gHA a_GUNU eTENU a_GUNU kL cI a_TIMES_ASH a_OVER_HI_TIMES_ASH s2 eBAD dDISH eGAD
  dKIN dNUN dSHE dU jU aB2 a_TIMES_AN cHAL dKASKAL gLISH eUD lL2 cSH eI a_A cB bDIM a_OVER_IDIM_BUR
  dSQUARED vG aI a_DIB dGUNU eOVER_IGI_SHIR_OVER_SHIR_UD_OVER_UD zjRI fL a_TIMES_GAN2_TENU q2 cM
  a_CROSSING_IM lOPPOSING_IM lSQUARED hTIMES_TAK4 lIN dN bR bSH dKA a_TIMES_A aD a_PLUS_KU3 kNSHE
  eSH2 b3 eBAD bLAG dR cI bU cERIN2 eSH2 eGA aL bN2_TENU hR a_PLUS_SHA3_PLUS_A tI aR2 cSH
  a_CROSSING_GISH nPLUS_SAR mU aD bR7 eHI_TIMES_ASH2 nIGI cM cKA aK cI aD dLI bU aM dME a_PLUS_DU
  cGI cTE jI a_PLUS_NUNUZ nNE bUN dPA bI cRU cSA aR cHA bE bID cU aL dIG cUHUR fTAR cU cU a_U_U e2
  bD bMUM_TIMES_PA mR a2 cSH dZI j2 a_CROSSING_KA2 oB bD2 b3 b4 b5 a_OVER_KAD5 mK a_TIMES_IGI_GUNU
  qL a_CROSSING_KAL mTIMES_BAD lM2 b4 cP_ELAMITE jSKAL a_LAGAB_TIMES_U_OVER_LAGAB_TIMES_U
  zhOVER_KASKAL_LAGAB_TIMES_U_OVER_LAGAB_TIMES_U zzESH2 eI a_TIMES_BAD dU aD jD bN bSAL cH bIM5
  a_OVER_KISIM5 rU a_OVER_HI_TIMES_ASH2_KU_OVER_HI_TIMES_ASH2 zq3 b4 a_VARIANT_FORM o7 bL a_GUNU gN
  bR a_OPPOSING_KUR oSHU2 fWU318 gLA aGAB a_SQUARED hTIMES_A a_PLUS_DA_PLUS_HA kGAR dLAL jL bN
  bSH_ZIDA_TENU nBAD cI cDAR dEN cGA aR cI bUD a_PLUS_GUD mHA aL cI_TIMES_NUN mIGI_GUNU hM a_PLUS_HA
  cLU kKI aN cU3 bL a_PLUS_HI_PLUS_A sLAGAB eISH dU aL dME a_PLUS_EN jUSH eNE cSHE_PLUS_SUM
  kITA_PLUS_GISH_PLUS_ERIN2 kTENU sU2 a_PLUS_SHU2 nUM dTAG bK4 dE_PLUS_A_PLUS_SU_PLUS_NA zU a_PLUS_A
  bU_PLUS_U o2_PLUS_ASH kD bSH dZU_OVER_ZU sR a_GUNU a_OVER_LAGAR_GUNU_SHE yTIMES_SHE a_PLUS_SUM
  wHSHU eK-003 c21 b5 c30 c50 b1 c62 c79_OVER_LAK-079_GUNU u80 b1_OVER_LAK-081 p92 d130 c42 d210 b9
  c20 b5 b8 c38 c65 b6 d343 b7 b8 c83 b4 c90 d441 b9 a_TIMES_GU cIGI dPAP_PLUS_LU3 dPAP_PLUS_LU3
  vU2_PLUS_BA t50 b7 c70 c83 c90 b2 b3 b5 d550 d608 c17 a_TIMES_ASH dBAD dDUN3_GUNU_GUNU oKU3 dLA
  cTAR cE cU2 bD bRUDA o36 c48 a_TIMES_DUB dGA cIGI a_GUNU iNI cPAP_PLUS_PAP_PLUS_LU3 vSHESH_PLUS_KI
  nUD bRUDA p724 c49 fL a_TIMES_LAL lM a_TIMES_KUR a_PLUS_RU uI aL bMMU2 eSH dU a_TIMES_BAD k2
  a_CROSSING_LU2 mGUNU_TIMES_ASH oOPPOSING_LU2 mSHESHIG a_TIMES_BAD qQUARED hTENU dIMES_AL cBAD
  dDISH eESH2 a_PLUS_LAL iTENU jGAN2_TENU jHAL cI_TIMES_BAD mIM cKAD2 b3 a_PLUS_ASH mI cLA_PLUS_ASH
  jGAB fME_PLUS_EN kNE bU cPAP a_PLUS_PAP_PLUS_LU3 vSHU cI_PLUS_ASH jK2_PLUS_BU mTAK4 dUG2 m3 bGAL
  a_OPPOSING_LUGAL nVER_LUGAL kSHESHIG lH bL bM a_OVER_LUM a_GAR_OVER_GAR zMA a_GUNU eTIMES_TAK4 l2
  bH bR bSH a2 eE aS aH dI a_PLUS_ZA7 jN cU a_OVER_MU iG a_GUNU gNSUB eRGU2 eSH a_CROSSING_MUSH
  nOVER_MUSH a_TIMES_A_PLUS_NA jGA cKAK tTIMES_A bKUR dZA j3 a_GUNU eTIMES_A a_PLUS_DI jDI cZA oNA
  a2 b4 bGA a_INVERTED iOPPOSING_NAGA nTIMES_SHU_TENU pR dM a_NUTILLU i2 dE a_SHESHIG hTIMES_A bUD
  kI a_TIMES_E i2 bM a_TIMES_GAN2_TENU hR_PLUS_GAN2_TENU zbN a9 bDA2 a_TIMES_AN bSH a_PLUS_ASH mBAL
  dDIM_GUNU iGI aSH dUD bL dHI cKESH2 fLAK-050 hMASH dE_PLUS_GAN2_TENU rNE bUN dPAP_PLUS_PAP mSHE
  a_PLUS_A_AN dSH a_PLUS_ASH vU a_PLUS_U h2_PLUS_ASH kRUDA eSH oSAG eU a11 a_OVER_NU11_BUR_OVER_BUR
  wROTATED_NINETY_DEGREES wTENU hN a_CROSSING_NUN a_LAGAR_OVER_LAGAR zeLAGAR_TIMES_GAR dMASH eSAL
  a_OVER_NUN_LAGAR_TIMES_SAL zdUSH pOVER_NUN iTENU fUZ a_AB2_TIMES_ASHGAB gBI cDUG dGUD dIGI_GUNU
  iKAD3 eLA cNE cSILA3 fU2 mKISIM5_TIMES_BI a_U xPA aD bN bP cESH2 a_ASTERISK nI a_CROSSING_PI
  lTIMES_A aB cBI bU cE bI aB cU a2 jR2 bIG a_OPPOSING_PIRIG oTIMES_KAL dUD cZA oRA aB cI bU cSA aG
  a_GUNU a_TIMES_HA nNUTILLU hOVER_SAG iTIMES_A bDU aB dEN cHA cIGI_GUNU iKAK cUR dLUM dMI cNUN dSAL
  cHE_AT_LEFT jID eTAB bK4 eU2 bB bM bR bSH lL a_LAGAB_TIMES_ASH2 sNGA2 eR cHA a3 a_TIMES_A bBAD
  dGISH eNE cSHU2 eTUR dU a_PLUS_A q6 a_TENU gB6 cR2 dE a_HU cOVER_SHE a_GAD_OVER_GAD_GAR_OVER_GAR
  zTAB_OVER_TAB_GAR_OVER_GAR zjPLUS_HUB2 eNAM2 eSAR jG9 cN bSH a2 bLAM gID a_TIMES_A bIM kM
  a_TIMES_A bBAL cULUG fDIN dGAR dIGI a_GUNU iKUSHU2 gLUL dMUG dSAL lNIG dR a_OVER_SHIR_BUR_OVER_BUR
  wTENU gTA dU a_OVER_INVERTED_SHU s2 a_PLUS_DUG_TIMES_NI mE2_TIMES_AN sBUR fI a_GUNU eTIMES_TAK4 lG
  a4 a_OVER_SIG4_SHU2 rK2 cLA3 eU a_OVER_SU iD a2 cHUR dM aASH eR a9 eTA a_ASTERISK iGUNU eTIMES_HI
  cMI jB a_OVER_TAB_NI_OVER_NI_DISH_OVER_DISH zjSQUARED jG a_TIMES_BI cGUD dSHE bU dTUG2 eUD kK4
  a_PLUS_SAG lR cE a_GUNU gI a_TENU f2 bL bR a_OVER_TIR a_GAD_OVER_GAD_GAR_OVER_GAR zjTIMES_TAK4 nU
  aG2 cK bM a_TIMES_GAN2_TENU jTHREE_DISH sR a_OVER_TUR_ZA_OVER_ZA xU a_GUD
  dOVER_U_PA_OVER_PA_GAR_OVER_GAR xSUR_OVER_SUR mU_REVERSED_OVER_U_REVERSED ziU a_U e2 bB bD a_GUNU
  eKUSHU2 gSHESHIG a_TIMES_BAD rTIMES_BAD dMI cU_PLUS_U_PLUS_U a_GUNU zcUG dM a_TIMES_LAGAB fME
  a_PLUS_DA kSHA3 eU iBIN dUM a_TIMES_KASKAL gPA mN a_GUNU gR a_CROSSING_UR lSHESHIG i2 a_INVERTED
  iTIMES_A_PLUS_HA cNA iL cHA cNUN dU2 a_PLUS_ASH dBI jD k4 bI a3 cU a_TIMES_A aSHGAB gBAR dDARA3
  eUN dGA aL bN2_TENU hR cU cHA cIGI cM bSH dKI cLAK-668 gU3 bM dMIN dPA cSHE cIG4 eTU cU_PLUS_GUD
  jD bRUDA mDA a_TIMES_U mSH a_TIMES_A bKU aR dTAK4 l2 bUMX dX dTUKI eZ3 a_TIMES_KASKAL oU dZA
  a_SQUARED_TIMES_KUR rTENU f7 bG bMX dE2 cI a_OVER_ZI i3 bB a_KABA_TENU lG bZ2 dU
  a_OVER_ZU_PLUS_SAR r5 a_TIMES_A bTHREE_DISH_TENU xBUR dM qP_ON_BLACK_SQUARE pWITH_STRAW lCAKE eIDO
  eRLING_STONE jY_BRACKET_EXTENSION rLOGICAL_AND dOR iOP hRENCY_EXCHANGE iSIGN jY_AND_RICE
  lVED_STEM_PARAGRAPH_SIGN_ORNAMENT ziSTARD dOMS fT_OF_MEAT kYCLONE fLINDRICITY kPRIOT_SYLLABLE_A bE
  bI bJA bO cKA bE bI bO bU cLA bE bI bO bU cMA bE bI bO bU cNA bE bI bO bU cO bPA bE bI bO bU cRA
  bE bI bO bU cSA bE bI bO bU cTA bE bI bO bU cU bWA bE bI bO cXA bE cZA bO pO-MINOAN_SIGN_CM001 b2
  b4 b5 b6 b7 b8 b9 c10 b1 b2 aB c3 b5 b7 b9 c21 b3 b4 b5 b6 b7 b8 b9 c30 b3 b4 b5 b6 b7 b8 b9 c40
  b1 b4 b6 b7 b9 c50 b1 b2 b3 b4 b5 b6 b8 b9 c60 b1 b2 b3 b4 b6 b7 b8 b9 c70 b1 b2 b3 b4 b5 aB c6 b8
  b9 c80 b1 b2 b3 b4 b5 b6 b7 b8 b9 c90 b1 b2 b4 b5 b6 b7 b8 b9 d100 b1 b2 b3 b4 b5 b7 b8 b9 c10 b2
  b4 d301 b2 vRILLIC_CAPITAL_LETTER_A a_WITH_BREVE fDIAERESIS pBKHASIAN_CHE a_WITH_DESCENDER sDZE
  dHA lLEUT_KA iBARRED_O a_WITH_DIAERESIS vSHKIR_KA jE bIG_YUS fNOCULAR_O kLENDED_YUS kROAD_OMEGA
  kYELORUSSIAN-UKRAINIAN_I yCCHE dHE a_WITH_DESCENDER iIAERESIS jVERTICAL_STROKE xLOSED_LITTLE_YUS
  qROSSED_O jDCHE dE bJE aRV eOUBLE_MONOCULAR_O lO hWE cZE aLO dHE cWE cZE bHE fE a_WITH_DIAERESIS
  pF bL a_WITH_DESCENDER jHOOK eMIDDLE_HOOK lTAIL lM a_WITH_TAIL lN a_WITH_DESCENDER jHOOK
  eLEFT_HOOK jMIDDLE_HOOK lTAIL lR a_WITH_TICK lS a_WITH_DESCENDER rFITA eGHE a_WITH_DESCENDER
  jMIDDLE_HOOK lSTROKE a_AND_HOOK pUPTURN oJE dHA a_WITH_DESCENDER jHOOK eSTROKE mRD_SIGN iWE dI
  a_WITH_DIAERESIS jGRAVE fMACRON mE a_WITH_BREVE fGRAVE mO aTA bIFIED_A bBIG_YUS hCLOSED_LITTLE_YUS
  rE bLITTLE_YUS kYAT lZHITSA a_WITH_DOUBLE_GRAVE_ACCENT zhJE cKA a_WITH_DESCENDER jHOOK eSTROKE
  gVERTICAL_STROKE wHAKASSIAN_CHE nJE cOMI_DE bJE cZJE eLJE dNJE dSJE dTJE dZJE gPPA eSI dLHA
  cITTLE_YUS jJE dMONOCULAR_O hGRAPH_UK mNEUTRAL_YER kJE dO a_WITH_DIAERESIS pMEGA a_WITH_TITLO pT
  cPE a_WITH_DESCENDER jMIDDLE_HOOK sSI dQA cREVERSED_DZE dTSE dYU cZE kHA cOUND_OMEGA lSCHWA
  a_WITH_DIAERESIS tEMISOFT_SIGN mHA bCHA dHA a_WITH_DESCENDER rORT_I a_WITH_TAIL lU fWE dOFT_DE cEL
  bM cSIGN iTRAIGHT_U a_WITH_STROKE wTCHE dE a_WITH_DESCENDER jMIDDLE_HOOK sSE bHE cSE cWE dWE dU
  a_WITH_DIAERESIS iOUBLE_ACUTE mMACRON mK aRAINIAN_IE mVE cWE cYA aE bT cERU a_WITH_BACK_YER
  iDIAERESIS sI bN bU cZE a_WITH_DESCENDER iIAERESIS pMLYA fHE a_WITH_BREVE fDESCENDER iIAERESIS qWE
  kIGATURE_A_IE eEN_GHE gTE_TSE xKAVYKA gLETTER_MULTIOCULAR_O nPALOCHKA iSMALL_CAPITAL_EL xPAYEROK
  hSMALL_LETTER_A a_WITH_BREVE fDIAERESIS pBKHASIAN_CHE a_WITH_DESCENDER sDZE dHA lLEUT_KA iBARRED_O
  a_WITH_DIAERESIS vSHKIR_KA jE bIG_YUS fNOCULAR_O kLENDED_YUS kROAD_OMEGA kYELORUSSIAN-UKRAINIAN_I
  yCCHE dHE a_WITH_DESCENDER iIAERESIS jVERTICAL_STROKE xLOSED_LITTLE_YUS qROSSED_O jDCHE dE bJE aRV
  eOUBLE_MONOCULAR_O lO hWE cZE aLO dHE cWE cZE bHE fE a_WITH_DIAERESIS pF bL a_WITH_DESCENDER jHOOK
  eMIDDLE_HOOK lTAIL lM a_WITH_TAIL lN a_WITH_DESCENDER jHOOK eLEFT_HOOK jMIDDLE_HOOK lTAIL lR
  a_WITH_TICK lS a_WITH_DESCENDER rFITA eGHE a_WITH_DESCENDER jMIDDLE_HOOK lSTROKE a_AND_HOOK
  pUPTURN oJE dHA a_WITH_DESCENDER jHOOK eSTROKE mRD_SIGN iWE dI a_WITH_DIAERESIS jGRAVE fMACRON mE
  a_WITH_BREVE fGRAVE mO aTA bIFIED_A bBIG_YUS hCLOSED_LITTLE_YUS rE bLITTLE_YUS kYAT lZHITSA
  a_WITH_DOUBLE_GRAVE_ACCENT zhJE cKA a_WITH_DESCENDER jHOOK eSTROKE gVERTICAL_STROKE wHAKASSIAN_CHE
  nJE cOMI_DE bJE cZJE eLJE dNJE dSJE dTJE dZJE gPPA eSI dLHA cITTLE_YUS jJE cONG-LEGGED_DE
  oMONOCULAR_O hGRAPH_UK mNARROW_O hEUTRAL_YER kJE dO a_WITH_DIAERESIS pMEGA a_WITH_TITLO pT
  cPALOCHKA hE a_WITH_DESCENDER jMIDDLE_HOOK sSI dQA cREVERSED_DZE dTSE dYU cZE kHA cOUND_OMEGA
  gED_VE kSCHWA a_WITH_DIAERESIS tEMISOFT_SIGN mHA bCHA dHA a_WITH_DESCENDER rORT_I a_WITH_TAIL lU
  fWE dOFT_DE cEL bM cSIGN iTRAIGHT_U a_WITH_STROKE wTALL_HARD_SIGN jTE cYAT hCHE dE
  a_WITH_DESCENDER jMIDDLE_HOOK sHREE-LEGGED_TE oSE bHE cSE cWE dWE dU a_WITH_DIAERESIS iOUBLE_ACUTE
  mMACRON mK aRAINIAN_IE lNBLENDED_UK mVE cWE bIDE_ES hYA aE bT cERU a_WITH_BACK_YER iDIAERESIS sI
  bN bU cZE a_WITH_DESCENDER iIAERESIS pMLYA fHE a_WITH_BREVE fDESCENDER iIAERESIS qWE kIGATURE_A_IE
  eEN_GHE gTE_TSE vTHOUSANDS_SIGN xDAGGER a_KNIFE fWITH_LEFT_GUARD kRIGHT_GUARD vLET_SYMBOL kNCER
  dGO dRK_SHADE eUNGLASSES nSH_SYMBOL gWITH_LEFT_UPTURN rED_LOW_LINE iOVERLINE
  iTRIANGLE-HEADED_RIGHTWARDS_ARROW zmTA_LINK_ESCAPE pC1 b2 b3 b4 bS cEAF_PERSON jCIDUOUS_TREE
  kMAL_EXPONENT_SYMBOL pSEPARATOR_KEY_SYMBOL zREASE_FONT_SIZE_SYMBOL xER cGREE_CELSIUS hFAHRENHEIT
  kSIGN jL aETE dIVERY_TRUCK lTA_EQUAL_TO mNTISTRY_SYMBOL_LIGHT_DOWN_AND_HORIZONTAL a_WITH_CIRCLE
  gTRIANGLE iWAVE zeUP_AND_HORIZONTAL a_WITH_CIRCLE gTRIANGLE iWAVE zcVERTICAL_AND_BOTTOM_LEFT
  eRIGHT mTOP_LEFT eRIGHT jWAVE iWITH_CIRCLE gTRIANGLE zsPARTMENT_STORE oRELICT_HOUSE_BUILDING
  vSCENDING_NODE mERET_CAPITAL_LETTER_AY cBEE dCHEE eDEE dEF bL bM bN aG cR bS aH cTH cW cGAY dH
  bJEE dKAY dLONG_A aH cE bI bO aO hOI bW cPEE dSHORT_A aH cE bI bO aO iTEE cHEE eVEE dWU cYEE dZEE
  cHEE tSMALL_LETTER_AY cBEE dCHEE eDEE dEF bL bM bN aG cR bS aH cTH cW cGAY dH bJEE dKAY dLONG_A aH
  cE bI bO aO hOI bW cPEE dSHORT_A aH cE bI bO aO iTEE cHEE eVEE dWU cYEE dZEE cHEE uT a_ISLAND
  kKTOP_COMPUTER iWINDOW mVANAGARI_ABBREVIATION_SIGN qCUTE_ACCENT mCARET fDANDA eIGIT_EIGHT fFIVE
  dOUR eNINE eONE dSEVEN eIX dTHREE eWO dZERO jOUBLE_DANDA mGAP_FILLER jRAVE_ACCENT mHEADSTROKE
  kJAIN_OM hLETTER_A aA bI bU bW bY cBA bBA cHA dCA aNDRA_A bE bO hHA dDA bDA bDA bHA dHA dHA dE bFA
  cGA bGA cHA bHA dLOTTAL_STOP mHA bEAVY_YA iI aI cJA bHA cJA dKA bHA bHA eLA bLA bLA eMA aRWARI_DDA
  lNA bGA cNA bNA dYA dO aE bOE dPA bHA dQA cRA bHA cRA dSA bHA bORT_A bE bO gSA dTA bHA cTA bHA eU
  aE bU aE dVA bOCALIC_L aL cR aR kYA bYA dZA bHA kOM cSIGN_ANUSVARA hVAGRAHA iCANDRABINDU
  a_AVAGRAHA iTHREE eWO dVIRAMA sDOUBLE_CANDRABINDU_VIRAMA zHIGH_SPACING_DOT qINVERTED_CANDRABINDU
  uNUKTA fPUSHPIKA iSIDDHAM gPACING_CANDRABINDU tVIRAMA eSARGA lTRESS_SIGN_ANUDATTA iUDATTA
  sVOWEL_SIGN_AA bI bU bW bY cCANDRA_E bLONG_E gO iE bI aI cO aE bOE dPRISHTHAMATRA_E pSHORT_E bO hU
  aE bU aE dVOCALIC_L aL cR aR zeICE_CONTROL_FOUR eONE dSTRING gTHREE eWO rIAERESIS gMETER_SIGN
  jOND_OPERATOR iSHAPE_WITH_A_DOT_INSIDE xTARGET gWITH_BOTTOM_HALF_BLACK rLEFT_HALF_BLACK
  pRIGHT_HALF_BLACK qTOP_HALF_BLACK zE_FACE-1 b2 b3 b4 b5 b6 hSEL_LOCOMOTIVE pFFERENCE_BETWEEN
  qGIT_EIGHT a_COMMA fFULL_STOP pFIVE a_COMMA fFULL_STOP nOUR a_COMMA fFULL_STOP oNINE a_COMMA
  fFULL_STOP oONE a_COMMA fFULL_STOP nSEVEN a_COMMA fFULL_STOP oIX a_COMMA fFULL_STOP nTHREE a_COMMA
  fFULL_STOP oWO a_COMMA fFULL_STOP nZERO a_COMMA fFULL_STOP rRAM_FOR_EARTH aLY_HEAVEN fUMAN
  nGREATER_YANG dIN lHEAVENLY_EARTH nUMAN_EARTH lLESSER_YANG dIN tMENSION_ORIGIN
  oNGBAT_CIRCLED_SANS-SERIF_DIGIT_EIGHT fFIVE dOUR eNINE eONE dSEVEN eIX dTHREE eWO dZERO
  kNUMBER_TEN zeNEGATIVE_CIRCLED_DIGIT_EIGHT fFIVE dOUR eNINE eONE dSEVEN eIX dTHREE eWO jNUMBER_TEN
  kSANS-SERIF_DIGIT_EIGHT fFIVE dOUR eNINE eONE dSEVEN eIX dTHREE eWO dZERO kNUMBER_TEN
  ztRECT_CURRENT_SYMBOL_FORM_TWO xHIT iSABLED_CAR iPPOINTED_BUT_RELIEVED_FACE rFACE
  oCONTINUOUS_UNDERLINE_SYMBOL zcGUISED_FACE mTTO_MARK iVES_AKURU_DIGIT_EIGHT fFIVE dOUR eNINE eONE
  dSEVEN eIX dTHREE eWO dZERO jOUBLE_DANDA mEND_OF_TEXT_MARK qGAP_FILLER kINITIAL_RA kLETTER_A aA
  cBA bHA dCA bHA dDA bDA bHA dHA dE bGA bHA dHA cI aI cJA cKA bHA dLA bLA dMA cNA bGA cNA cYA dO
  bPA bHA dRA cSA bHA cSA dTA bHA cTA dU aU cVA cYA bYA dZA jMEDIAL_RA cYA jPREFIXED_NASAL_SIGN
  tSIGN_ANUSVARA iCANDRABINDU lHALANTA hNUKTA kVIRAMA fOWEL_SIGN_AA bI cE bI aI cO bU aU wIDES
  dNG_MASK hSION_SIGN dLASH fTIMES lORCE_SYMBOL mYA_LAMP hZZY_FACE eSYMBOL lLE cNA_DOUBLE_HELIX
  pO_NOT_LITTER_SYMBOL sCUMENT a_WITH_PICTURE hTEXT a_AND_PICTURE zdDO cES_NOT_CONTAIN_AS_MEMBER
  gNORMAL_SUBGROUP a_OR_EQUAL zkDIVIDE a_WITH_REVERSED_NEGATION_SLASH zkFORCE fPRECEDE a_OR_EQUAL
  oOVE fSUCCEED a_OR_EQUAL xG a_FACE fRA_ABBREVIATION_SIGN rLETTER_A aA bI bU cBA bHA dCA bHA dDA
  bDA bHA dHA dE bGA bHA dHA cI aI cJA bHA dKA bHA dLA cMA cNA bGA cNA cYA dO bPA bHA dRA bRA dSA
  bHA cSA dTA bHA cTA bHA eU aU cVA cYA jSIGN_ANUSVARA iNUKTA fVIRAMA eSARGA mVOWEL_SIGN_AA bI bU cE
  bI aI cO bU aU cVOCALIC_R aR zLLAR_SIGN iPHIN fMINO_TILE_HORIZONTAL_BACK f-00-00 b1 b2 b3 b4 b5 b6
  e1-00 b1 b2 b3 b4 b5 b6 e2-00 b1 b2 b3 b4 b5 b6 e3-00 b1 b2 b3 b4 b5 b6 e4-00 b1 b2 b3 b4 b5 b6
  e5-00 b1 b2 b3 b4 b5 b6 e6-00 b1 b2 b3 b4 b5 b6 qVERTICAL_BACK f-00-00 b1 b2 b3 b4 b5 b6 e1-00 b1
  b2 b3 b4 b5 b6 e2-00 b1 b2 b3 b4 b5 b6 e3-00 b1 b2 b3 b4 b5 b6 e4-00 b1 b2 b3 b4 b5 b6 e5-00 b1 b2
  b3 b4 b5 b6 e6-00 b1 b2 b3 b4 b5 b6 yNG_SIGN hOR cT_ABOVE fMINUS fOPERATOR iPLUS fTED_CIRCLE fROSS
  fFENCE fLINE_FACE jOBELOS gRIGHT-POINTING_ANGLE uSOLIDUS gQUARE gTRANSPOSITION_MARKER
  zUBLE_ACUTE_ACCENT mCIRCLED_DIGIT_EIGHT fFIVE dOUR eNINE eONE dSEVEN eIX dTHREE eWO jNUMBER_TEN
  rOLON_EQUAL kURLY_LOOP kDAGGER fOWN_TACK jEXCLAMATION_MARK qHIGH-REVERSED-9_QUOTATION_MARK zeYPHEN
  gINTEGRAL eRSECTION mLEFT_ARC_GREATER-THAN_BRACKET zdOGICAL_AND dOR iW_LINE f-9_QUOTATION_MARK
  qREVERSED-9_QUOTATION_MARK zeNESTED_GREATER-THAN mLESS-THAN a_WITH_UNDERBAR zfOBLIQUE_HYPHEN oPLUS
  dRECEDES gIME a_QUOTATION_MARK uQUESTION_MARK nRIGHT_ARC_LESS-THAN_BRACKET zcSOLIDUS_OPERATOR
  pQUARE_INTERSECTION mUNION lTACKED_COMMA lROKE_NOT_SIGN oUBSET eCCEEDS gPERSET gSPENSION_MARK
  pUNION eP_TACK hVERTICAL_BAR a_DOUBLE_LEFT_TURNSTILE oRIGHT_TURNSTILE wLEFT_TURNSTILE sLINE
  nWAVY_OVERLINE o-ENDED_MULTIMAP oLINE_EQUAL_TO_OR_GREATER-THAN mLESS-THAN
  vSLANTED_EQUAL_TO_OR_GREATER-THAN mLESS-THAN vGREATER-THAN_OR_EQUAL_TO yLESS-THAN_OR_EQUAL_TO
  zjSTRUCK_CAPITAL_C bGAMMA fH bN bP aI cQ bR bZ jITALIC_CAPITAL_D jSMALL_D bE bI bJ
  oN-ARY_SUMMATION pSMALL_GAMMA fPI qD_FEMALE_SIGN lMALE_SIGN jSYMBOL lGHNUT gVE_OF_PEACE
  lWN_ARROWHEAD jFISH_TAIL jRIGHT_DIAGONAL_ELLIPSIS xTACK a_WITH_CIRCLE_BELOW
  x-POINTING_RED_TRIANGLE mSMALL_RED_TRIANGLE sTRIANGLE_WITH_LEFT_HALF_BLACK pRIGHT_HALF_BLACK
  zpWARD_FACING_HOOK a_WITH_DOT nNOTCHED_HOOK a_WITH_DOT zeS_ANCORA fRROW
  a_AND_RIGHT_ONE_EIGHTH_BLOCK zbFROM_BAR iLEFTWARDS_OF_UPWARDS_ARROW zbTO_BAR
  gWITH_CORNER_LEFTWARDS qDOUBLE_STROKE nEQUILATERAL_ARROWHEAD vHORIZONTAL_STROKE
  rLARGE_TRIANGLE_ARROWHEAD yMEDIUM_TRIANGLE_ARROWHEAD zNOTCHED_TAIL mSMALL_EQUILATERAL_ARROWHEAD
  vTRIANGLE_ARROWHEAD yTIP_LEFTWARDS jRIGHTWARDS zBLACK_ARROW fCIRCLED_WHITE_ARROW zCOMPRESSED_ARROW
  qDASHED_ARROW lOUBLE_ARROW mFINGER-POST_ARROW
  rHARPOON_WITH_BARB_LEFT_BESIDE_DOWNWARDS_HARPOON_WITH_BARB_RIGHT ziUPWARDS_HARPOON_WITH_BARB_RIGHT
  znFROM_BAR iTO_BAR hWARDS jRIGHT_FROM_BAR iTO_BAR hWARDS zcEAVY_ARROW fCOMPRESSED_ARROW
  wPAIRED_ARROWS nQUADRUPLE_ARROW pROCKET gSANS-SERIF_ARROW pQUARED_ARROW nTRIANGLE_ARROWHEAD
  k-HEADED_ARROW a_LEFTWARDS_OF_UPWARDS_TRIANGLE-HEADED_ARROW zrTO_BAR gWITH_BOLD_SHAFT
  kDOUBLE_HORIZONTAL_STROKE yHEAVY_SHAFT lLONG_TIP_LEFTWARDS jRIGHTWARDS tMEDIUM_SHAFT mNARROW_SHAFT
  mVERY_HEAVY_SHAFT zcDASHED_ARROW mPAIRED_ARROWS nZIGZAG_ARROW zPLE_ARROW lWO_HEADED_ARROW
  n-HEADED_ARROW_WITH_TRIANGLE_ARROWHEADS zqWHITE_ARROW a_WITHIN_TRIANGLE_ARROWHEAD zmZIGZAG_ARROW
  vRACHMA_SIGN jFTING_POINT_RIGHTWARDS_ARROW zdGON a_FACE jESS dIVE_SLOW_SIGN nOMEDARY_CAMEL
  mOLING_FACE kP_OF_BLOOD jLET fUM_WITH_DRUMSTICKS tUCK cMPLING gPLOYAN_AFFIX_ATTACHED_E_HOOK
  gI_HOOK gLEFT-TO-RIGHT_SECANT uSECANT gTAIL cNGENT a_HOOK vHIGH_ACUTE fCIRCLE gDOT dGRAVE fLINE
  dONG_GRAVE kTIGHT_ACUTE lVERTICAL a_SECANT pWAVE jLEFT_HORIZONTAL_SECANT vOW_ACUTE eRROW fCIRCLE
  gDOT dGRAVE fLINE dONG_GRAVE kTIGHT_ACUTE lVERTICAL a_SECANT pWAVE iMID_HORIZONTAL_SECANT
  rVERTICAL_SECANT tRIGHT_HORIZONTAL_SECANT zeDOUBLE_MARK lLETTER_A aOU dB bD a_S cH cE aE bU cF a_N
  dG a_R_S fH aL cI aE cJ a_M a_S dN a_S dS a_WITH_DOT kWITH_DOT aS_INSIDE_AND_ABOVE zdK a_M bR_S eK
  cL aH bONG_I bU gM a_N a_S dS bWITH_DOT kN a_M a_S dS bWITH_DOT jASAL_A bI bO bU hO aA bOH cU bW
  cP a_N cERNIN_AM bN jR a_S cH bOMANIAN_I bU kS a_J a_S dK a_R dM bN bP a_R dS bT a_R dWITH_DOT
  a_BELOW pHORT_I gLOAN_AN cDH cEE bH bN cJ bON bW cU hT a_R_S dS cH cU a_N cH bI cV aOCALIC_M jW
  a_R cA bEI cH bI bO aW dX aW cYE jPUNCTUATION_CHINOOK_FULL_STOP zeSIGN_O_WITH_CROSS
  rTHICK_LETTER_SELECTOR zeVD"⟩

end LineCalc.Text
