import LineCalc.Text.CharName.Basic

/-!
Names of characters from M to R.
-/
namespace LineCalc.Text

def namesMToR : NameTable := ⟨"
  aMACRON eGE bIC_WAND hNET eHAJANI_ABBREVIATION_SIGN rLETTER_A bBA bHA dCA bHA dDA bDA bHA dHA dE
  bGA bHA dHA cI bJA bHA dKA bHA dLA cMA cNA bNA cYA dO bPA bHA dRA bRA dSA cTA bHA cTA bHA eU bVA
  iIGATURE_SHRI nSECTION_MARK lIGN_NUKTA qJONG_TILE_AUTUMN gBACK cMBOO gCHRYSANTHEMUM nEAST_WIND
  iIGHT_OF_BAMBOOS hCHARACTERS jIRCLES qFIVE_OF_BAMBOOS hCHARACTERS jIRCLES oOUR_OF_BAMBOOS
  hCHARACTERS jIRCLES pGREEN_DRAGON mJOKER fNINE_OF_BAMBOOS hCHARACTERS jIRCLES oORTH_WIND
  kONE_OF_BAMBOOS hCHARACTERS jIRCLES nRCHID gPLUM eRED_DRAGON kSEVEN_OF_BAMBOOS hCHARACTERS jIRCLES
  pIX_OF_BAMBOOS hCHARACTERS jIRCLES nOUTH_WIND jPRING fUMMER gTHREE_OF_BAMBOOS hCHARACTERS jIRCLES
  pWO_OF_BAMBOOS hCHARACTERS jIRCLES oWEST_WIND iHITE_DRAGON lINTER rKASAR_ANGKA fEND_OF_SECTION
  oLETTER_A bBA cCA cDA cGA cJA cKA cLA cMA cNA bGA cYA dPA cRA cSA cTA cVA cYA jPASSIMBANG
  kVOWEL_SIGN_E bI bO bU sLAYALAM_AU_LENGTH_MARK oDATE_MARK iIGIT_EIGHT fFIVE dOUR eNINE eONE dSEVEN
  eIX dTHREE eWO dZERO kFRACTION_ONE_EIGHTH gFIFTH eORTIETH iHALF eONE-HUNDRED-AND-SIXTIETH yQUARTER
  hSIXTEENTH jTENTH eWENTIETH nTHREE_EIGHTIETHS kQUARTERS iSIXTEENTHS kTWENTIETHS zLETTER_A aA bI
  bRCHAIC_II jU cBA bHA dCA bHA bILLU_K bL aL aL dM bN aN cRR cY iDA bDA bHA dHA cOT_REPH iE aE cGA
  bHA dHA cI aI cJA bHA dKA bHA dLA bLA bLA eMA cNA bGA cNA bNA dYA dO aO cPA bHA dRA bRA dSA bHA
  cSA dTA bHA cTA bHA cTA eU aU cVA bEDIC_ANUSVARA nOCALIC_L aL cR aR kYA jNUMBER_ONE_HUNDRED
  hTHOUSAND mTEN kSIGN_ANUSVARA hVAGRAHA iCANDRABINDU kIRCULAR_VIRAMA oOMBINING_ANUSVARA_ABOVE yPARA
  eVERTICAL_BAR_VIRAMA sIRAMA eSARGA mVOWEL_SIGN_AA bI bU cE aE cI aI cO aO cU aU cVOCALIC_L aL cR
  aR zdE_AND_FEMALE_SIGN pSIGN eWITH_STROKE_AND_MALE_AND_FEMALE_SIGN ySIGN sTESE_CROSS lMMOTH fN
  a_AND_WOMAN_HOLDING_HANDS xDANCING hIN_BUSINESS_SUIT_LEVITATING yTUXEDO jWITH_GUA_PI_MAO kTURBAN
  mAT_SIGN hDAIC_AFFRICATION_MARK qGEMINATION_MARK pLETTER_AB bD bG bH bIN cK aSA dL bM bN bP bQ bR
  bS aH bZ cT aT cZ cDUSHENNA iHALQA fIN bT cKAD dUSHENNA oPUNCTUATION lVOCALIZATION_MARK wGO
  cICHAEAN_ABBREVIATION_MARK_ABOVE fBELOW xLETTER_AAYIN eLEPH eYIN eBETH dHETH fDALETH fHAMEDH hFE
  cGHIMEL fIMEL fHE aTH eJAYIN eHAYIN gKAPH dHAPH fLAMEDH gMEM dNUN dPE cQHOPH eOPH eRESH eSADHE
  dMEKH fHIN dSHIN fTAW cETH dHAMEDH hWAW dXAPH dOPH eYODH eZAYIN eHAYIN nNUMBER_FIVE eONE a_HUNDRED
  lTEN cWENTY nPUNCTUATION_DOT a_WITHIN_DOT mUBLE_DOT_WITHIN_DOT vFLEURON hLINE_FILLER lSTAR
  eTWO_DOTS uSIGN_UD pS_SHOE gTELPIECE_CLOCK oUAL_WHEELCHAIR pP_SYMBOL_FOR_LIGHTHOUSE wLE_LEAF
  iRCHEN_HEAD_MARK jLETTER_-A cA bBA cCA bHA dDA bZA dGA cHA cJA cKA bHA dLA cMA cNA bGA cYA dPA bHA
  dRA cSA bHA dTA bHA cSA bHA eWA cYA cZA bHA kMARK_SHAD jSIGN_ANUSVARA iCANDRABINDU
  pUBJOINED_LETTER_A bBA cCA bHA dDA bZA dGA cHA cJA cKA bHA dLA cMA cNA bGA cYA dPA bHA dRA cSA bHA
  dTA bHA cSA bHA eWA cYA cZA bHA uVOWEL_SIGN_AA cE bI bO bU rRIAGE_SYMBOL mTIAL_ARTS_UNIFORM
  sSARAM_GONDI_DIGIT_EIGHT fFIVE dOUR eNINE eONE dSEVEN eIX dTHREE eWO dZERO kLETTER_A aA bI bU cBA
  bHA dCA bHA dDA bDA bHA dHA dE bGA bHA dHA cI aI cJA bHA cNYA eKA bHA cSSA eLA bLA dMA cNA bGA cNA
  cYA dO bPA bHA dRA cSA bHA cSA dTA bHA cRA cTA bHA eU aU cVA cYA jRA-KARA gEPHA fSIGN_ANUSVARA
  iCANDRA gHALANTA hNUKTA fVISARGA mVIRAMA fOWEL_SIGN_AA bI bU cE bI aI cO bU aU cVOCALIC_R
  zgCULINE_ORDINAL_INDICATOR yK_WORK_SYMBOL nU_MARK hTE_DRINK hHEMATICAL_BOLD_CAPITAL_A aLPHA fB
  aETA eC aHI dD aELTA eIGAMMA hE aPSILON gTA dF bG aAMMA fH bI aOTA eJ bK aAPPA fL aAMDA fM aU cN
  aU cO aMEGA dICRON hP aHI cI bSI dQ bR aHO dS aIGMA fT aAU cHETA a_SYMBOL mU aPSILON hV bW bX aI
  cY bZ aETA mDIGIT_EIGHT fFIVE dOUR eNINE eONE dSEVEN eIX dTHREE eWO dZERO kEPSILON_SYMBOL
  oFRAKTUR_CAPITAL_A bB bC bD bE bF bG bH bI bJ bK bL bM bN bO bP bQ bR bS bT bU bV bW bX bY bZ
  jSMALL_A bB bC bD bE bF bG bH bI bJ bK bL bM bN bO bP bQ bR bS bT bU bV bW bX bY bZ
  pITALIC_CAPITAL_A aLPHA fB aETA eC aHI dD aELTA fE aPSILON gTA dF bG aAMMA fH bI aOTA eJ bK aAPPA
  fL aAMDA fM aU cN aU cO aMEGA dICRON hP aHI cI bSI dQ bR aHO dS aIGMA fT aAU cHETA a_SYMBOL mU
  aPSILON hV bW bX aI cY bZ aETA mEPSILON_SYMBOL oKAPPA_SYMBOL mNABLA fPARTIAL_DIFFERENTIAL
  tHI_SYMBOL jI_SYMBOL jRHO_SYMBOL kSMALL_A aLPHA fB aETA eC aHI dD aELTA fE aPSILON gTA dF
  aINAL_SIGMA lG aAMMA fH bI aOTA eJ bK aAPPA fL aAMDA fM aU cN aU cO aMEGA dICRON hP aHI cI bSI dQ
  bR aHO dS aIGMA fT aAU cHETA fU aPSILON hV bW bX aI cY bZ aETA kTHETA_SYMBOL tKAPPA_SYMBOL mNABLA
  fPARTIAL_DIFFERENTIAL tHI_SYMBOL jI_SYMBOL jRHO_SYMBOL kSCRIPT_CAPITAL_A bB bC bD bE bF bG bH bI
  bJ bK bL bM bN bO bP bQ bR bS bT bU bV bW bX bY bZ jSMALL_A bB bC bD bE bF bG bH bI bJ bK bL bM bN
  bO bP bQ bR bS bT bU bV bW bX bY bZ nMALL_A aLPHA fB aETA eC aHI dD aELTA eIGAMMA hE aPSILON gTA
  dF aINAL_SIGMA lG aAMMA fH bI aOTA eJ bK aAPPA fL aAMDA fM aU cN aU cO aMEGA dICRON hP aHI cI bSI
  dQ bR aHO dS aIGMA fT aAU cHETA fU aPSILON hV bW bX aI cY bZ aETA kTHETA_SYMBOL
  rDOUBLE-STRUCK_CAPITAL_A bB bD bE bF bG bI bJ bK bL bM bO bS bT bU bV bW bX bY jDIGIT_EIGHT fFIVE
  dOUR eNINE eONE dSEVEN eIX dTHREE eWO dZERO kSMALL_A bB bC bD bE bF bG bH bI bJ bK bL bM bN bO bP
  bQ bR bS bT bU bV bW bX bY bZ vFALLING_DIAGONAL pRAKTUR_CAPITAL_A bB bD bE bF bG bJ bK bL bM bN bO
  bP bQ bS bT bU bV bW bX bY jSMALL_A bB bC bD bE bF bG bH bI bJ bK bL bM bN bO bP bQ bR bS bT bU bV
  bW bX bY bZ pITALIC_CAPITAL_A aLPHA fB aETA eC aHI dD aELTA fE aPSILON gTA dF bG aAMMA fH bI aOTA
  eJ bK aAPPA fL aAMDA fM aU cN aU cO aMEGA dICRON hP aHI cI bSI dQ bR aHO dS aIGMA fT aAU cHETA
  a_SYMBOL mU aPSILON hV bW bX aI cY bZ aETA mEPSILON_SYMBOL oKAPPA_SYMBOL mNABLA
  fPARTIAL_DIFFERENTIAL tHI_SYMBOL jI_SYMBOL jRHO_SYMBOL kSMALL_A aLPHA fB aETA eC aHI dD aELTA
  eOTLESS_I bJ jE aPSILON gTA dF aINAL_SIGMA lG aAMMA fI aOTA eJ bK aAPPA fL aAMDA fM aU cN aU cO
  aMEGA dICRON hP aHI cI bSI dQ bR aHO dS aIGMA fT aAU cHETA fU aPSILON hV bW bX aI cY bZ aETA
  kTHETA_SYMBOL tLEFT_ANGLE_BRACKET nDOUBLE_ANGLE_BRACKET uFLATTENED_PARENTHESIS
  vWHITE_SQUARE_BRACKET oTORTOISE_SHELL_BRACKET ziMONOSPACE_CAPITAL_A bB bC bD bE bF bG bH bI bJ bK
  bL bM bN bO bP bQ bR bS bT bU bV bW bX bY bZ jDIGIT_EIGHT fFIVE dOUR eNINE eONE dSEVEN eIX dTHREE
  eWO dZERO kSMALL_A bB bC bD bE bF bG bH bI bJ bK bL bM bN bO bP bQ bR bS bT bU bV bW bX bY bZ
  rRIGHT_ANGLE_BRACKET nDOUBLE_ANGLE_BRACKET uFLATTENED_PARENTHESIS vWHITE_SQUARE_BRACKET
  oTORTOISE_SHELL_BRACKET zhSING_DIAGONAL pSANS-SERIF_BOLD_CAPITAL_A aLPHA fB aETA eC aHI dD aELTA
  fE aPSILON gTA dF bG aAMMA fH bI aOTA eJ bK aAPPA fL aAMDA fM aU cN aU cO aMEGA dICRON hP aHI cI
  bSI dQ bR aHO dS aIGMA fT aAU cHETA a_SYMBOL mU aPSILON hV bW bX aI cY bZ aETA mDIGIT_EIGHT fFIVE
  dOUR eNINE eONE dSEVEN eIX dTHREE eWO dZERO kEPSILON_SYMBOL oITALIC_CAPITAL_A aLPHA fB aETA eC aHI
  dD aELTA fE aPSILON gTA dF bG aAMMA fH bI aOTA eJ bK aAPPA fL aAMDA fM aU cN aU cO aMEGA dICRON hP
  aHI cI bSI dQ bR aHO dS aIGMA fT aAU cHETA a_SYMBOL mU aPSILON hV bW bX aI cY bZ aETA
  mEPSILON_SYMBOL oKAPPA_SYMBOL mNABLA fPARTIAL_DIFFERENTIAL tHI_SYMBOL jI_SYMBOL jRHO_SYMBOL
  kSMALL_A aLPHA fB aETA eC aHI dD aELTA fE aPSILON gTA dF aINAL_SIGMA lG aAMMA fH bI aOTA eJ bK
  aAPPA fL aAMDA fM aU cN aU cO aMEGA dICRON hP aHI cI bSI dQ bR aHO dS aIGMA fT aAU cHETA fU
  aPSILON hV bW bX aI cY bZ aETA kTHETA_SYMBOL tKAPPA_SYMBOL mNABLA fPARTIAL_DIFFERENTIAL tHI_SYMBOL
  jI_SYMBOL jRHO_SYMBOL kSMALL_A aLPHA fB aETA eC aHI dD aELTA fE aPSILON gTA dF aINAL_SIGMA lG
  aAMMA fH bI aOTA eJ bK aAPPA fL aAMDA fM aU cN aU cO aMEGA dICRON hP aHI cI bSI dQ bR aHO dS aIGMA
  fT aAU cHETA fU aPSILON hV bW bX aI cY bZ aETA kTHETA_SYMBOL rCAPITAL_A bB bC bD bE bF bG bH bI bJ
  bK bL bM bN bO bP bQ bR bS bT bU bV bW bX bY bZ jDIGIT_EIGHT fFIVE dOUR eNINE eONE dSEVEN eIX
  dTHREE eWO dZERO kITALIC_CAPITAL_A bB bC bD bE bF bG bH bI bJ bK bL bM bN bO bP bQ bR bS bT bU bV
  bW bX bY bZ jSMALL_A bB bC bD bE bF bG bH bI bJ bK bL bM bN bO bP bQ bR bS bT bU bV bW bX bY bZ
  oSMALL_A bB bC bD bE bF bG bH bI bJ bK bL bM bN bO bP bQ bR bS bT bU bV bW bX bY bZ
  rCRIPT_CAPITAL_A bC bD bG bJ bK bN bO bP bQ bS bT bU bV bW bX bY bZ jSMALL_A bB bC bD bF bH bI bJ
  bK bL bM bN bP bQ bR bS bT bU bV bW bX bY bZ zXIMIZE gYAN_NUMERAL_EIGHT aEEN hLEVEN gFIFTEEN fVE
  dOUR aTEEN iNINE aTEEN iONE dSEVEN aTEEN iIX aTEEN hTEN cHIRTEEN gREE eWELVE eO dZERO
  rEASURED_ANGLE a_OPENING_LEFT mWITH_OPEN_ARM_ENDING_IN_ARROW_POINTING_DOWN_AND_LEFT eRIGHT
  oLEFT_AND_DOWN eUP lRIGHT_AND_DOWN eUP mUP_AND_LEFT eRIGHT zzhBY cRIGHT_ANGLE_WITH_DOT zbT_ON_BONE
  kCHANICAL_ARM dLEG mDEFAIDRIN_CAPITAL_LETTER_A aI bTIU eB bC bD bE bF bG bH aP cI bJ bK aP cL bM
  bN aG bY cO aE cP bQ bR bS bT bU bV bW bX bY aU cZ pOMMA fDIGIT_EIGHT fFIVE dOUR eNINE eONE
  a_ALTERNATE_FORM sSEVEN eIX dTHREE a_ALTERNATE_FORM tWO a_ALTERNATE_FORM sZERO kEXCLAMATION_OH
  oFULL_STOP jNUMBER_EIGHTEEN hLEVEN gFIFTEEN gOURTEEN iNINETEEN iSEVENTEEN iIXTEEN hTEN cHIRTEEN
  hWELVE nSMALL_LETTER_A aI bTIU eB bC bD bE bF bG bH aP cI bJ bK aP cL bM bN aG bY cO aE cP bQ bR
  bS bT bU bV bW bX bY aU cZ nYMBOL_AIVA uIEVAL_COMMA fEXCLAMATION_MARK qQUESTION_MARK
  sUM_BLACK_CIRCLE lOLD_WHITE_CIRCLE rEIGHT_POINTED_BLACK_STAR sSPOKED_ASTERISK
  vFIVE_SPOKED_ASTERISK tLATTENED_LEFT_PARENTHESIS_ORNAMENT zRIGHT_PARENTHESIS_ORNAMENT
  zkOUR_POINTED_BLACK_STAR kPINWHEEL_STAR zbGREEK_CROSS lLEFT_CURLY_BRACKET_ORNAMENT
  wPARENTHESIS_ORNAMENT v-POINTING_ANGLE_BRACKET_ORNAMENT zlMATHEMATICAL_SPACE
  sRIGHT_CURLY_BRACKET_ORNAMENT wPARENTHESIS_ORNAMENT v-POINTING_ANGLE_BRACKET_ORNAMENT zmSALTIRE
  gHADE eIX_POINTED_BLACK_STAR sSPOKED_ASTERISK sMALL_WHITE_CIRCLE sTHREE_POINTED_BLACK_STAR
  kPINWHEEL_STAR zcVERTICAL_BAR mWHITE_CIRCLE gSQUARE rETEI_MAYEK_AHANG_KHUDAM lNJI dPUN_IYEK
  jCHEIKHAN cEI iDIGIT_EIGHT fFIVE dOUR eNINE eONE dSEVEN eIX dTHREE eWO dZERO kLETTER_ATIYA fBA
  bHAM eCHA bIL eDDA bHA dHOU dIL dE bGHOU dOK dHUK dI a_LONSUM iJHAM dIL dKHOU dOK a_LONSUM kLAI
  a_LONSUM kMIT a_LONSUM kNA a_LONSUM iGOU a_LONSUM kNA cYA dO bPA a_LONSUM iHAM eRAI dSAM cHA cSA
  dTHOU dIL a_LONSUM jTA bHA eUN cWAI dYANG kUM_IYEK iSYLLABLE_REPETITION_MARK yVIRAMA
  fOWEL_SIGN_AAI bU cNAP dU cCHEINAP hII bNAP eNUNG eONAP eSOUNAP gUNAP dU cVISARGA hYENAP
  qWORD_REPETITION_MARK zgLON cTING_FACE kMO cNDE_KIKAKUI_COMBINING_NUMBER_HUNDRED_THOUSANDS kS
  iMILLIONS iTEENS dN_THOUSANDS kS dHOUSANDS zbDIGIT_EIGHT fFIVE dOUR eNINE eONE dSEVEN eIX dTHREE
  eWO jSYLLABLE_M001_KI e2_KA e3_KU e4_WI e5_WA e6_WU e7_MIN f8_MAN f9_MUN g10_BI e1_BA e2_BU e3_I
  d4_A d5_U d6_DI e7_DA e8_DU e9_SI f20_SA e1_SU e2_TI e3_TA e4_TU e5_LI e6_LA e7_LU e8_JI e9_JA
  f30_JU e1_YI e2_YA e3_YU e4_FI e5_FA e6_FU e7_NIN f8_NAN f9_NUN g40_HEE f1_HA e2_HOO f3_NGGA
  g4_KPEE g5_WO e6_HUAN g7_MBEE g8_KO e9_WVA g50_PU e1_PE e2_HEN f3_HIN f4_LOO f5_TE e6_GBA f7_NGON
  g8_NYAN g9_MEN g60_NYON g1_WVI f2_MBA f3_JO e4_NDO f5_KEE f6_PO e7_NDOO g8_PI e9_TO f70_GBO
  f1_GBOO g2_MBE f3_LE e4_KPU f5_FE e6_KOO f7_VO e8_FEE f9_SO f80_YE e1_PEE f2_NGGU g3_HEEI g4_LEE
  f5_VE e6_LONG_NGGE l7_HUN f8_FO e9_DEE g90_NGGI g1_TEE f2_KPA f3_GBEE g4_MON f5_KE e6_HE e7_BE
  e8_NYEN g9_PA g100_E d1_FAN f2_POO f3_BOO f4_TOO f5_LONG_MBOO l6_LONG_NGGOO m7_GBE f8_KPE f9_YEE
  g10_LONG_LE j1_GA e2_KPOO g3_JE e4_WOO f5_NGGEE h6_SE e7_NEN f8_WE e9_NDE g20_NGGO g1_YO e2_MBU
  f3_NDI f4_GBI f5_NDU f6_WEE f7_NGGUA h8_HOOU g9_NDA g30_HAN f1_IN e2_KPI f3_FOO f4_NJOO g5_IN
  e6_SOO f7_EI e8_BO e9_WVE g40_HO e1_YOO f2_LONG_MBO k3_WEI f4_VOO f5_MBI f6_NGGE g7_O d8_GBU
  f9_NJEE h50_BEE f1_VU e2_NJA f3_LO e4_MUAN g5_GI e6_NGGOO h7_JEE f8_KPO f9_NGGAA i60_JOO
  f1_LONG_MBE k2_SEE f3_EE e4_NYIN g5_OO e6_GUEI g7_GUAN g8_GU e9_NON g70_NYUN g1_RA e2_MBOO g3_VEE
  f4_MBO f5_LONG_JO j6_HI e7_NGUAN h8_EN e9_KUA g80_DOO f1_DO e2_VI e3_LONG_NGGO l4_NGEN g5_VA e6_HU
  e7_MBUU g8_MBEE g9_MUEN h90_GEE f1_NDEE g2_NJU f3_HON f4_WUI f5_AN e6_SIA f7_FUA
  zdORAH_WITH_NINE_BRANCHES xS_SYMBOL jRCURY eOITIC_CURSIVE_FRACTION_EIGHT_TWELFTHS nLEVEN_TWELFTHS
  pFIVE_TWELFTHS mOUR_TWELFTHS nNINE_TWELFTHS nONE_HALF eTWELFTH lSEVEN_TWELFTHS nIX_TWELFTHS
  mTEN_TWELFTHS lHREE_TWELFTHS nWO_TWELFTHS vLETTER_A aRCHAIC_SA kBA cDA cE bHHA dI bKA bHA dLA cMA
  cNA bE cO bPA cQA cRA cSA bE cTA bE bO cWA cYA iOGOGRAM_IMN dRMT mNUMBER_EIGHT a_HUNDRED
  a_THOUSAND qTHOUSAND jY_THOUSAND pFIFTY a_THOUSAND mVE a_HUNDRED a_THOUSAND qTHOUSAND mORTY
  a_THOUSAND mUR a_HUNDRED a_THOUSAND qTHOUSAND nNINE a_HUNDRED a_THOUSAND qTHOUSAND jTY_THOUSAND
  pONE a_HUNDRED a_THOUSAND qTHOUSAND mSEVEN a_HUNDRED a_THOUSAND qTHOUSAND jTY a_THOUSAND pIX
  a_HUNDRED a_THOUSAND qTHOUSAND jTY a_THOUSAND oTEN a_THOUSAND lHIRTY a_THOUSAND nREE a_HUNDRED
  a_THOUSAND qTHOUSAND nWENTY a_THOUSAND nO a_HUNDRED a_THOUSAND qTHOUSAND zcHIEROGLYPHIC_LETTER_A
  bBA a-2 eDA cE bHHA dI bKA bHA dLA cMA cNA a-2 dE a-2 eO bPA cQA cRA a-2 eSA a-2 dE cTA a-2 dE a-2
  dO cWA cYA jSYMBOL_VIDJ a-2 zhPERSON hSSAGE_WAITING nTRICAL_BREVE fLONG_OVER_SHORT fTWO_SHORTS
  uPENTASEME jSHORT_OVER_LONG pTETRASEME iRISEME gWO_SHORTS_JOINED gOVER_LONG zO eIAO_LETTER_AH
  bRCHAIC_MA cNA bGA dZZA lBA bRI dDA bDA cLHA bYA eZA bHA cYI cZA eFA cGA bHA bHA eHA bHA dKA cLA
  bHA bYA dYA dMA bHA dNA aSALIZATION lGA bHA dHA cNA bHA dYA bHA ePA bLA dQA bGA dREFORMED_TONE-1
  b2 b4 b5 b6 b8 fSHA mTE dSA bHA cSA cYI dTA bE bLHA bYA eONE-2 b3 b4 b5 b6 b7 b8 fSA bE bHA cSA
  dTA dVA bFA dWA cXA cYI_DZHA eKA cNNA dPA cTA bSA bHA dTA gZA bHA cSA bHA dZA bSA bYA dYA
  lSIGN_ASPIRATION kCONSONANT_MODIFIER_BAR wREFORMED_ASPIRATION kVOICING vTONE_ABOVE fBELOW fRIGHT
  fTOP_RIGHT oVOWEL_SIGN_A aA bE aE cHH cI bN aG cU cE aA bI bN aG cR aR dI aA aN aG dE bG bI bNG cO
  aNG dU cN aG cO aER bY cG bO bU cROUNDED_ER aR lU aA aN aG dEI cI bNG cOG cU cVW cW aO cY aI bUI
  rCR_DASH_SYMBOL lON_US_SYMBOL nO_SIGN fBE cPHONE fSCOPE iDDLE_DOT
  dTHIRD_WHITE_RIGHT_POINTING_INDEX zlLINE_HORIZONTAL_ELLIPSIS zLITARY_HELMET gMEDAL lKY_WAY gL_SIGN
  hNIBUS dDISC eMIZE fUS_SIGN a_IN_TRIANGLE lWITH_COMMA_ABOVE lDOT_BELOW jFALLING_DOTS mRISING_DOTS
  vTILDE g-OR-PLUS_SIGN pY cRROR a_BALL kMSP dOBILE_PHONE a_OFF dWITH_RIGHTWARDS_ARROW_AT_LEFT
  zpDELS cRN_PENTATHLON oI_ABBREVIATION_SIGN rDANDA eIGIT_EIGHT fFIVE dOUR eNINE eONE dSEVEN eIX
  dTHREE eWO dZERO jOUBLE_DANDA mLETTER_A aA bI bU cBA bHA dCA bHA dDA bDA bHA dHA dE bGA bHA dHA cI
  aI cJA bHA dKA bHA dLA bLA dMA cNA bGA cNA cYA dO bPA bHA dRA cSA bHA cSA dTA bHA cTA bHA eU aU
  cVA bOCALIC_L aL cR aR kYA jSIGN_ANUSVARA hRDHACANDRA lHUVA eVIRAMA eSARGA mVOWEL_SIGN_AA bI bU cE
  bI aI cO bU aU cVOCALIC_L aL cR aR wFIER_BREVE_WITH_INVERTED_BREVE zLETTER_ACUTE_ACCENT
  lLVEOLAR_CLICK nPOSTROPHE kBEGIN_HIGH_TONE jLOW_TONE nILABIAL_CLICK oCAPITAL_A aE cB aARRED_B iC
  bD bE bF bG bH a_WITH_STROKE nI bJ bK bL bM bN bO aU cP bQ bR aEVERSED_E bN kT bU bV bW
  iENTRED_LEFT_HALF_RING oRIGHT_HALF_RING wHINESE_TONE_YANG_PING eQU cRU cSHANG jIN_PING eQU cRU
  cSHANG vIRCUMFLEX_ACCENT qOLON eROSS_ACCENT lYRILLIC_EN cHARD_SIGN jSOFT_SIGN sDENTAL_CLICK
  lOT_HORIZONTAL_BAR oSLASH fVERTICAL_BAR oUBLE_APOSTROPHE kPRIME kWN_ARROWHEAD jTACK jEND_HIGH_TONE
  jLOW_TONE lXTRA-HIGH_DOTTED_LEFT-STEM_TONE_BAR sTONE_BAR pLEFT-STEM_TONE_BAR sTONE_BAR
  nLOW_DOTTED_LEFT-STEM_TONE_BAR sTONE_BAR pLEFT-STEM_TONE_BAR sTONE_BAR sGEORGIAN_NAR lLOTTAL_STOP
  a_WITH_STROKE xRAVE_ACCENT mHALF_TRIANGULAR_COLON uIGH_DOTTED_LEFT-STEM_TONE_BAR sTONE_BAR
  pLEFT-STEM_TONE_BAR sTONE_BAR nLATERAL_CLICK mEFT_ARROWHEAD jHALF_RING jTACK iOW_ACUTE_ACCENT
  mCIRCUMFLEX_ACCENT rDOTTED_LEFT-STEM_TONE_BAR sTONE_BAR nWN_ARROWHEAD oGRAVE_ACCENT
  mINVERTED_EXCLAMATION_MARK zLEFT_ARROW aHEAD k-STEM_TONE_BAR sMACRON gRIGHT_ARROWHEAD nNG eTILDE
  eONE_BAR iUP_ARROWHEAD mVERTICAL_LINE oER_RIGHT_CORNER_ANGLE yMACRON fID_DOTTED_LEFT-STEM_TONE_BAR
  sTONE_BAR pLEFT-STEM_TONE_BAR sTONE_BAR jDLE_DOUBLE_ACUTE_ACCENT mGRAVE_ACCENT tGRAVE_ACCENT
  rNUS_SIGN kOPEN_SHELF kPLUS_SIGN iRIME fRAISED_COLON fDOWN_ARROW kEXCLAMATION_MARK
  qINVERTED_EXCLAMATION_MARK zUP_ARROW oETROFLEX_CLICK_WITH_RETROFLEX_HOOK ziVERSED_COMMA
  fGLOTTAL_STOP a_WITH_STROKE zhHOTIC_HOOK kIGHT_ARROWHEAD jHALF_RING jTACK kSHELF dORT_EQUALS_SIGN
  qMALL_A aE bIN cLPHA fB a_WITH_HOOK kARRED_O hETA dOTTOM_HALF_O nC a_WITH_CURL kAPITAL_AA cB bG
  a_WITH_HOOK lH bI a_WITH_STROKE mNVERTED_R kL a_WITH_BELT lN bOE cR bU bY iHI cLOSED_OMEGA
  fREVERSED_OPEN_E wD a_WITH_HOOK a_AND_TAIL nTAIL kELTA dZH_DIGRAPH lOTLESS_J_WITH_STROKE
  a_AND_HOOK zeZ_DIGRAPH a_WITH_CURL eRETROFLEX_HOOK zfE aNG cSH cTH cZH dF aENG_DIGRAPH mG
  a_WITH_HOOK kAMMA eREEK_GAMMA fPHI jH a_WITH_HOOK eSTROKE mENG a_WITH_HOOK oI_WITH_STROKE mOTA eJ
  a_WITH_CROSSED-TAIL tK bL a_WITH_BELT eINVERTED_LAZY_S pMIDDLE_TILDE mPALATAL_HOOK mRETROFLEX_HOOK
  a_AND_BELT zeEZH a_WITH_RETROFLEX_HOOK xIGATURE_OE kS_DIGRAPH jZ_DIGRAPH kM a_WITH_HOOK
  lN_WITH_LEFT_HOOK jRETROFLEX_HOOK vO a_WITH_STROKE mPEN_E bO gP aHI dQ bR a_WITH_FISHHOOK iTAIL
  kAMS_HORN iEVERSED_E bGLOTTAL_STOP mOPEN_E pS a_WITH_CURL eHOOK kCHWA dRIPT_G hIDEWAYS_U kT
  a_WITH_PALATAL_HOOK mRETROFLEX_HOOK uC_DIGRAPH_WITH_CURL tESH_DIGRAPH lHETA eOP_HALF_O jS_DIGRAPH
  a_WITH_RETROFLEX_HOOK zeURNED_A aE bLPHA fH bI bM a_WITH_LONG_LEG pOPEN_E gR a_WITH_HOOK eLONG_LEG
  a_AND_RETROFLEX_HOOK zjV bW bY a_WITH_BELT sU a_BAR dWITH_LEFT_HOOK pPSILON hV a_WITH_HOOK
  eRIGHT_HOOK rW bX bY bZ a_WITH_CURL eRETROFLEX_HOOK zbTRESS_AND_HIGH_TONE jLOW_TONE
  sUPERSCRIPT_HALF_TRIANGULAR_COLON vTRIANGULAR_COLON zdTRIANGULAR_COLON pURNED_COMMA mUNASPIRATED
  kP_ARROWHEAD jTACK gS cVERTICAL_LINE mOICING hYANG_DEPARTING_TONE_MARK xIN_DEPARTING_TONE_MARK
  zlULO_TWO_SUM mNEY_BAG dWITH_WINGS l-MOUTH_FACE nGOLIAN_BIRGA a_WITH_DOUBLE_ORNAMENT pORNAMENT
  tCOLON dMMA fDIGIT_EIGHT fFIVE dOUR eNINE eONE dSEVEN eIX dTHREE eWO dZERO
  jOUBLE_BIRGA_WITH_ORNAMENT zbELLIPSIS iFOUR_DOTS iREE_VARIATION_SELECTOR_FOUR eONE dTHREE eWO
  zbULL_STOP jINVERTED_BIRGA a_WITH_DOUBLE_ORNAMENT zkLETTER_A aLI_GALI_A aH bNUSVARA_ONE mBALUDA
  gCA cDA aGALGA fMARU fDA dHALF_U bYA hI aNVERTED_UBADAMA qKA cNGA cNA dPA bHA dSSA dTA
  bHREE_BALUDA lTA bHA eUBADAMA hVISARGA_ONE lZA bHA lNG dBA cCHA a_WITH_TWO_DOTS pI dDA cE aE cFA
  cGA cHAA dI bJA cKA bHA dLA bHA dMA aNCHU_ALI_GALI_BHA dCA bYA dDDHA dHA dGHA dJHA dLHA dNGA dSSA
  dTA bTA dZA bHA mFA cI bKA cRA cZHA kNA cO aE cPA cQA cRA cSA bHA cIBE_ANG dCHA dDA cE bFA cGA aA
  dHA aA dI aY cJA cKA cPA cRAA dSHA dTA bSA dU aE cZA bHA iTA bODO_ALI_GALI_TA cZHA lNG dBA cCHA
  dDA bZA dE bGA aA dHAA dI bJA bIA dKA cLONG_VOWEL_SIGN pMA cNIA dO aE cPA cQA cTA bSA dU aE cWA
  cYA gSA dU aE cWA cYA cZA bHI cRA kMANCHU_COMMA fFULL_STOP qNIRUGU gROTATED_BIRGA
  a_WITH_DOUBLE_ORNAMENT pORNAMENT zcSIBE_SYLLABLE_BOUNDARY_MARKER zdWIRL_BIRGA
  a_WITH_DOUBLE_ORNAMENT pORNAMENT zTODO_SOFT_HYPHEN pRIPLE_BIRGA_WITH_ORNAMENT
  zURNED_SWIRL_BIRGA_WITH_DOUBLE_ORNAMENT zoVOWEL_SEPARATOR wKEY a_FACE iOGRAM_FOR_EARTH fYANG dIN
  mRAIL eSTABLE_SYMBOL pOD_BUBBLE iN_CAKE eVIEWING_CEREMONY tSQUE bITO gTHER_CHRISTMAS nOR_BOAT
  eSCOOTER iIZED_WHEELCHAIR pWAY gUNT_FUJI fAIN a_BICYCLIST jCABLEWAY iRAILWAY nSE a_FACE eTRAP hTH
  dVIE_CAMERA kYAI eRO_DANDA eIGIT_EIGHT fFIVE dOUR eNINE eONE dSEVEN eIX dTHREE eWO dZERO
  jOUBLE_DANDA mLETTER_A bBA cCHU dDA aI dE aA cHAI bO dKEAAE eHAI dO cLA aN dMAEM dIM dNGI cIN dO
  aL bO cPA bHI dRI bO cSHI dTA bEK cHEA eWA cYO mUCH_GREATER-THAN mLESS-THAN mLTANI_LETTER_A bBA
  bHA dCA bHA dDA bDA bDA cHA dHA dE bGA bHA dHA cI bJA bJA dKA bHA dLA cMA cNA bNA cYA dPA bHA dRA
  bHA cRA dSA cTA bHA cTA bHA eU bVA cYA jSECTION_MARK qIMAP dPLE_MUSICAL_NOTES pICATION_SIGN
  a_IN_DOUBLE_CIRCLE nLEFT_HALF_CIRCLE qRIGHT_HALF_CIRCLE rTRIANGLE lWITH_DOT_ABOVE jUNDERBAR sX
  lSET a_MULTIPLICATION oUNION mSHROOM fIC_FLAT_SIGN jNATURAL_SIGN mSHARP_SIGN lAL_KEYBOARD
  a_WITH_JACKS tNOTE eSCORE eYMBOL_ARPEGGIATO_DOWN eUP nBEGIN_BEAM ePHRASE gSLUR eTIE iRACE bKET
  fEATH_MARK iVE bIS a_REST lC_CLEF fAESURA gIRCLE_X_NOTEHEAD qLIMACUS fVIS eUSTER_NOTEHEAD_BLACK
  fWHITE vODA cMBINING_ACCENT a-STACCATO oUGMENTATION_DOT qBEND eDOIT cUBLE_TONGUE lWN_BOW iFLAG-1
  b2 b3 b4 b5 eIP eHARMONIC iLOURE fMARCATO a-STACCATO qRIP dSMEAR eNAP_PIZZICATO nPRECHGESANG_STEM
  qTACCATISSIMO gO gEM eTENUTO fREMOLO-1 b2 b3 hIPLE_TONGUE nUP_BOW nMON_TIME kRESCENDO hOIX
  eUT_TIME iDA_CAPO fL_SEGNO hMP a_ALL gSHED_BARLINE nECRESCENDO jGREE_SLASH lOUBLE_BARLINE hFLAT
  eSHARP lRUM_CLEF-1 b2 lEIGHTH_NOTE eREST kND_BEAM eOF_STIMME jPHRASE gSLUR eTIE hF_CLEF
  a_OTTAVA_ALTA eBASSA sERMATA a_BELOW mINAL_BARLINE kGERED_TREMOLO-1 b2 b3 qVE-LINE_STAFF oLAT_DOWN
  eUP gORTE dUR-LINE_STAFF kSTRING_FRETBOARD uUSA_BLACK fWHITE kG_CLEF a_OTTAVA_ALTA eBASSA
  sLISSANDO_DOWN eUP lRACE_NOTE_NO_SLASH iSLASH oEGORIAN_C_CLEF gF_CLEF qHALF_NOTE ePEDAL_MARK kREST
  hUPTSTIMME lINVERTED_TURN nKIEVAN_C_CLEF gEIGHTH_NOTE_STEM_DOWN eUP sND_OF_PIECE mFINAL_NOTE
  jLAT_SIGN jHALF_NOTE jQUARTER_NOTE_STEM_DOWN eUP uRECITATIVE_MARK pWHOLE_NOTE qORON
  fLEFT_REPEAT_SIGN pONGA a_IMPERFECTA_REST pPERFECTA_REST tMAXIMA fEZZO eINIMA a_BLACK fREST
  kOON_NOTEHEAD_BLACK fWHITE sULTI_REST fPLE_MEASURE_REST vNATURAL_DOWN eUP jEBENSTIMME
  kOTEHEAD_BLACK nULL_NOTEHEAD nONE_HUNDRED_TWENTY-EIGHTH_NOTE eREST zc-LINE_STAFF nRNAMENT_STROKE-1
  a0 b1 c2 b3 b4 b5 b6 b7 b8 b9 qTTAVA_ALTA eBASSA mPARENTHESIS_NOTEHEAD tEDAL_MARK eUP_MARK
  lS_SUBPUNCTIS nIANO eLUS_NOTEHEAD mODATUS fRRECTUS a_FLEXUS qQUARTER_NOTE eREST eTONE_FLAT eSHARP
  qINDICESIMA_ALTA eBASSA sREPEAT_DOTS fED_FIGURE-1 b2 b3 pVERSE_FINAL_BARLINE uIGHT_REPEAT_SIGN
  pNFORZANDO lSCANDICUS a_FLEXUS pEGNO dMIBREVIS_BLACK fREST eWHITE mMINIMA_BLACK fREST eWHITE
  pHARP_DOWN eUP gORT_BARLINE mINGLE_BARLINE mX-LINE_STAFF kSTRING_FRETBOARD rTEENTH_NOTE eREST
  kY-FOURTH_NOTE eREST qORI dQUARE_B bNOTEHEAD_BLACK fWHITE uUBITO
  gTEMPUS_IMPERFECTUM_CUM_PROLATIONE_IMPERFECTA a_DIMINUTION-1 b2 b3 xPERFECTA
  zkPERFECTUM_CUM_PROLATIONE_IMPERFECTA kPERFECTA a_DIMINUTION-1 zzcHIRTY-SECOND_NOTE eREST
  qREE-LINE_STAFF pORCULUS a_RESUPINUS rR aIANGLE_NOTEHEAD_DOWN_BLACK fWHITE kLEFT_BLACK fWHITE
  kRIGHT_BLACK fWHITE lUP_BLACK fRIGHT_BLACK fWHITE lWHITE s-ROUND_NOTEHEAD_DOWN_BLACK fWHITE ziURN
  a_SLASH fUP gWO-LINE_STAFF oVIRGA eOID_NOTEHEAD nWHOLE_NOTE eREST jITH_FINGERNAILS qX_NOTEHEAD kZ
  pVS cW bYANMAR_CONSONANT_SIGN_MEDIAL_HA cRA cWA cYA iON_MEDIAL_LA cMA cNA nSHAN_MEDIAL_WA
  zeDIGIT_EIGHT fFIVE dOUR eNINE eONE dSEVEN eIX dTHREE eWO dZERO kLETTER_A aITON_RA hU cBA bHA dCA
  bHA dDA bDA bHA dHA dE aASTERN_PWO_KAREN_GHWA eNNA dYWA vGA bHA cREAT_SA iHA cI aI cJA bHA dKA bHA
  aMTI_CA bHA dDDA bHA dHA dFA cGA cHA bHA dJA bHA dLLA dNA bYA dRA cSA cTTA bHA eXA cZA jLA bLA dMA
  bON_BBA bE dE bJHA dNGA hNA bGA cNA bYA dYA dO bPA bHA dRA bUMAI_PALAUNG_FA qSA bGAW_KAREN_SHA nHA
  aN_A bBA bHA dCA bHA dDA cFA cGA bHA dHA cJHA dKA bHA dNA bNA cYA dPHA dTHA dZA fWE_PALAUNG_CHA
  dSHA pSA dTA aI_LAING_BA bHA dDA bDA bHA dHA dFA cGA bHA dJA bHA dLLA dNNA cYA mHA cTA bHA eU aU
  cVOCALIC_L aL cR aR kWA bESTERN_PWO_KAREN_PWA dTHA vYA iOGOGRAM_KHAMTI_HM cOAY dQN
  sMODIFIER_LETTER_KHAMTI_REDUPLICATION uSHAN_REDUPLICATION zjSHAN_DIGIT_EIGHT fFIVE dOUR eNINE eONE
  dSEVEN eIX dTHREE eWO dZERO oIGN_ANUSVARA hSAT eDOT_BELOW jKHAMTI_TONE-1 b3 nLITTLE_SECTION
  oPAO_KAREN_TONE oRUMAI_PALAUNG_TONE-5 uSECTION gHAN_COUNCIL_EMPHATIC_TONE nTONE-2 b3 oSAW dTONE-2
  b3 b5 b6 lTAI_LAING_TONE-2 b5 qVIRAMA eSARGA hWESTERN_PWO_KAREN_TONE-1 b2 b3 b4 b5
  zdYMBOL_AFOREMENTIONED nITON_EXCLAMATION lONE dTWO jCOMPLETED jGENITIVE iLOCATIVE
  iSHAN_EXCLAMATION lONE pTAI_LAING_DIGIT_EIGHT fFIVE dOUR eNINE eONE dSEVEN eIX dTHREE eWO dZERO
  tONE_MARK_SGAW_KAREN_HATHI fKE_PHO zcVOWEL_SIGN_AA bI aTON_A aI iE a_ABOVE hGEBA_KAREN_I mI aI
  cKAYAH_EE cOE cU hMON_II cO fSGAW_KAREN_EU mHAN_AA cE a_ABOVE hFINAL_Y mTALL_AA hU aU cVOCALIC_L
  aL cR aR kWESTERN_PWO_KAREN_EU cUE zoN-ARY_CIRCLED_DOT_OPERATOR mPLUS_OPERATOR nTIMES_OPERATOR
  vOPRODUCT jINTERSECTION mLOGICAL_AND dOR kPRODUCT hSQUARE_INTERSECTION_OPERATOR vUNION_OPERATOR
  uUMMATION jTIMES_OPERATOR oUNION a_OPERATOR_WITH_DOT dPLUS yWHITE_VERTICAL_BAR
  xABATAEAN_CRUCIFORM_NUMBER_FOUR vLETTER_ALEPH eYIN eBETH eDALETH gFINAL_ALEPH fBETH eHE cKAPH
  eLAMEDH gMEM dNUN dSHIN eYODH kGIMEL fHE aTH eKAPH eLAMEDH gMEM dNUN dPE cQOPH eRESH eSADHE dMEKH
  fHIN eTAW cETH eWAW dYODH eZAYIN mNUMBER_FIVE dOUR eONE a_HUNDRED lTEN cHREE eWENTY eO rLA
  dIL_POLISH iRA_SIGN iK bME_BADGE iND aINAGARI_HEADSTROKE kLETTER_A aA bI bU cBA bHA dCA bHA dDA
  bDA bHA dHA dE bGA bHA dHA cI aI cJA bHA dKA bHA dLA bLA dMA cNA bGA cNA cYA dO bPA bHA dRA bRA
  dSA bHA cSA dTA bHA cTA bHA eU aU cVA bOCALIC_R aR kYA jSIGN_ANUSVARA hVAGRAHA iSIDDHAM hVIRAMA
  eSARGA mVOWEL_SIGN_AA bI bU cE bI aI cO bPRISHTHAMATRA_E pU aU cVOCALIC_R aR zgRROW_NO-BREAK_SPACE
  tTIONAL_DIGIT_SHAPES mPARK lUSEATED_FACE mZAR_AMULET lBH bSP dECKTIE
  fGATED_DOUBLE_VERTICAL_BAR_DOUBLE_RIGHT_TURNSTILE zuIVE_ACKNOWLEDGE lCIRCLED_DIGIT_ZERO
  kLATIN_CAPITAL_LETTER_A bB bC bD bE bF bG bH bI bJ bK bL bM bN bO bP bQ bR bS bT bU bV bW bX bY bZ
  wNUMBER_EIGHTEEN hLEVEN gFIFTEEN gOURTEEN iNINETEEN iSEVENTEEN iIXTEEN hTHIRTEEN hWELVE dNTY
  nSQUARE gTRIANGLE qDIAGONAL_CROSS fDIAMOND hMIDDLE_RIGHT_TO_LOWER_CENTRE zmSQUARED_AB cCROSS_MARK
  kIC cLATIN_CAPITAL_LETTER_A bB bC bD bE bF bG bH bI bJ bK bL bM bN bO bP bQ bR bS bT bU bV bW bX
  bY bZ wPA cQUESTION_MARK nSA cWC rITHER_A_SUBSET_OF_NOR_EQUAL_TO uPERSET_OF_NOR_EQUAL_TO
  zPPROXIMATELY_NOR_ACTUALLY_EQUAL_TO zkGREATER-THAN_NOR_EQUAL_TO fIVALENT_TO nLESS-THAN
  zbLESS-THAN_NOR_EQUAL_TO fIVALENT_TO nGREATER-THAN zhL bPTUNE a_FORM_TWO oRD_FACE hSSUS
  dT_WITH_EGGS kING_DOLLS lUTER cRAL_CHESS_BISHOP a_ROTATED_NINETY_DEGREES
  oTWO_HUNDRED_SEVENTY_DEGREES zrEQUIHOPPER a_ROTATED_NINETY_DEGREES ziKING a_ROTATED_NINETY_DEGREES
  oTWO_HUNDRED_SEVENTY_DEGREES zoNIGHT a_ROTATED_FORTY-FIVE_DEGREES sNINETY_DEGREES
  oONE_HUNDRED_THIRTY-FIVE_DEGREES zgTHREE_HUNDRED_FIFTEEN_DEGREES zdWO_HUNDRED_SEVENTY_DEGREES
  pTWENTY-FIVE_DEGREES zvPAWN a_ROTATED_NINETY_DEGREES oTWO_HUNDRED_SEVENTY_DEGREES zpQUEEN
  a_ROTATED_NINETY_DEGREES oTWO_HUNDRED_SEVENTY_DEGREES zqROOK a_ROTATED_NINETY_DEGREES
  oTWO_HUNDRED_SEVENTY_DEGREES zpTURNED_BISHOP gKING dNIGHT gPAWN eQUEEN fROOK rFACE kW_LINE
  eMOON_SYMBOL gWITH_FACE oSHEQEL_SIGN lTAI_LUE_DIGIT_EIGHT fFIVE dOUR eNINE eONE dSEVEN eIX dTHREE
  eWO dZERO kLETTER_FINAL_B bD bK bM bN aG cV hHIGH_BA cDA cFA cHA cKA bVA dLA cMA cNA bGA dPA bHA
  dQA cSA bUA dTA bHA cSA dVA cXA bVA dYA hLOW_BA cDA cFA cHA cKA bVA dLA cMA cNA bGA dPA bHA dQA
  cSA bUA dTA bHA cSA dVA cXA bVA dYA nSIGN_LAE aV jTHAM_DIGIT_ONE nONE_MARK-1 b2 lVOWEL_SIGN_AA aY
  cE bY cE bII bY cO aA aY cY cU aE aY cU bY cVOWEL_SHORTENER zkA_ABBREVIATION_SIGN rCOMMA fDANDA
  eIGIT_EIGHT fFIVE dOUR eNINE eONE dSEVEN eIX dTHREE eWO dZERO jOUBLE_COMMA fDANDA mGAP_FILLER
  kINSERTION_SIGN oLETTER_A aA bI bU cBA bHA dCA bHA dDA bDA bHA dHA dE bGA bHA dHA cI aI cJA bHA
  dKA bHA dLA bHA dMA bHA dNA bGA bHA dHA cNA cYA bHA eO bPA bHA dRA bHA dSA bHA cSA dTA bHA cTA bHA
  eU aU cVEDIC_ANUSVARA nOCALIC_L aL cR aR kWA cYA jOM cPLACEHOLDER_MARK qSANDHI_MARK kIDDHI
  eGN_ANUSVARA hVAGRAHA iCANDRABINDU lFINAL_ANUSVARA oJIHVAMULIYA lNUKTA fUPADHMANIYA lVIRAMA eSARGA
  mVOWEL_SIGN_AA bI bU cE bI aI cO bU aU cVOCALIC_L aL cR aR xLINE_LEFT eRIGHT kSPAPER hXT_LINE
  ePAGE iIGHT_WITH_STARS oNJA eKO_COMBINING_DOUBLE_DOT_ABOVE qLONG_DESCENDING_TONE pHIGH_TONE
  jLOW_TONE iRISING_TONE qNASALIZATION_MARK rSHORT_HIGH_TONE jLOW_TONE iRISING_TONE yMA fDANTAYALAN
  jIGIT_EIGHT fFIVE dOUR eNINE eONE dSEVEN eIX dTHREE eWO dZERO jOROME_SIGN lEXCLAMATION_MARK
  qHIGH_TONE_APOSTROPHE uLAJANYALAN jETTER_A bBA cCHA dDA aGBASINNA kE aE cFA cGBA dHA cI bJA
  bONA_CHA dJA cRA hKA cLA cMA cN aA a_WOLOSO iYA a_WOLOSO kO aO cPA cRA bRA dSA cTA cU bWA cYA
  iOW_TONE_APOSTROPHE tSYMBOL_GBAKURUNEN kOO_DENNEN qTAMAN_SIGN nL bNBSP eO_BICYCLES hREAK_HERE
  kENTRY a_SIGN kMOBILE_PHONES nONE_UNDER_EIGHTEEN_SYMBOL zPEDESTRIANS kIRACY gSMOKING_SYMBOL
  p-BREAK_SPACE mMINAL_DIGIT_SHAPES qSMA_SIGN kN-BREAKING_HYPHEN pPOTABLE_WATER_SYMBOL vFORKING iR
  aDIC_MARK_SIGN nMAL_SUBGROUP_OF a_OR_EQUAL_TO zcTH_EAST_AND_SOUTH_WEST_ARROW tRROW
  a_AND_SOUTH_EAST_ARROW uCROSSING_NORTH_WEST_ARROW qSOUTH_EAST_ARROW zWITH_HOOK pBLACK_ARROW
  lDOUBLE_ARROW mPOINTING_BUD dLEAF eVINE_LEAF sSANS-SERIF_ARROW qTRIANGLE-HEADED_ARROW a_TO_BAR
  zdWHITE_ARROW qINDIC_FRACTION_ONE_EIGHTH gHALF eQUARTER hSIXTEENTH nTHREE_QUARTERS iSIXTEENTHS
  zPLACEHOLDER_MARK qQUANTITY_MARK kRTER_MARK mRUPEE_MARK qWEST_AND_SOUTH_EAST_ARROW tRROW
  a_AND_NORTH_EAST_ARROW uCROSSING_NORTH_EAST_ARROW zTO_CORNER gLONG_BAR lWITH_HOOK pBLACK_ARROW
  lDOUBLE_ARROW mPOINTING_BUD dLEAF eVINE_LEAF sSANS-SERIF_ARROW qTRIANGLE-HEADED_ARROW a_TO_BAR
  zdWHITE_ARROW rEAST-POINTING_AIRPLANE zSE cT_A_SUBSET_OF hPERSET_OF mLMOST_EQUAL_TO oN_ELEMENT_OF
  mSYMPTOTICALLY_EQUAL_TO xCHECK_MARK kEQUAL_TO fIVALENT_TO nGREATER-THAN mIDENTICAL_TO mLESS-THAN
  jNORMAL_SUBGROUP_OF a_OR_EQUAL_TO zfPARALLEL_TO lSIGN dQUARE_IMAGE_OF_OR_EQUAL_TO
  uORIGINAL_OF_OR_EQUAL_TO zfTILDE eRUE fCHED_LEFT_SEMICIRCLE_WITH_THREE_DOTS
  zfOWER_RIGHT-SHADOWED_WHITE_RIGHTWARDS_ARROW zsRIGHT_SEMICIRCLE_WITH_THREE_DOTS
  zhUPPER_RIGHT-SHADOWED_WHITE_RIGHTWARDS_ARROW zxE a_PAD bGE fBOOK a_WITH_DECORATIVE_COVER zeUL aL
  cMBER_EIGHTEEN_FULL_STOP rLEVEN_FULL_STOP qFIFTEEN_FULL_STOP qOURTEEN_FULL_STOP
  sNINETEEN_FULL_STOP sSEVENTEEN_FULL_STOP sIGN cXTEEN_FULL_STOP rTEN_FULL_STOP mHIRTEEN_FULL_STOP
  rWELVE_FULL_STOP nNTY_FULL_STOP uERO_SIGN jSHU_CHARACTER-1B170 b1 b2 b3 b4 b5 b6 b7 b8 b9 bA bB bC
  bD bE bF c80 b1 b2 b3 b4 b5 b6 b7 b8 b9 bA bB bC bD bE bF c90 b1 b2 b3 b4 b5 b6 b7 b8 b9 bA bB bC
  bD bE bF cA0 b1 b2 b3 b4 b5 b6 b7 b8 b9 bA bB bC bD bE bF cB0 b1 b2 b3 b4 b5 b6 b7 b8 b9 bA bB bC
  bD bE bF cC0 b1 b2 b3 b4 b5 b6 b7 b8 b9 bA bB bC bD bE bF cD0 b1 b2 b3 b4 b5 b6 b7 b8 b9 bA bB bC
  bD bE bF cE0 b1 b2 b3 b4 b5 b6 b7 b8 b9 bA bB bC bD bE bF cF0 b1 b2 b3 b4 b5 b6 b7 b8 b9 bA bB bC
  bD bE bF d200 b1 b2 b3 b4 b5 b6 b7 b8 b9 bA bB bC bD bE bF c10 b1 b2 b3 b4 b5 b6 b7 b8 b9 bA bB bC
  bD bE bF c20 b1 b2 b3 b4 b5 b6 b7 b8 b9 bA bB bC bD bE bF c30 b1 b2 b3 b4 b5 b6 b7 b8 b9 bA bB bC
  bD bE bF c40 b1 b2 b3 b4 b5 b6 b7 b8 b9 bA bB bC bD bE bF c50 b1 b2 b3 b4 b5 b6 b7 b8 b9 bA bB bC
  bD bE bF c60 b1 b2 b3 b4 b5 b6 b7 b8 b9 bA bB bC bD bE bF c70 b1 b2 b3 b4 b5 b6 b7 b8 b9 bA bB bC
  bD bE bF c80 b1 b2 b3 b4 b5 b6 b7 b8 b9 bA bB bC bD bE bF c90 b1 b2 b3 b4 b5 b6 b7 b8 b9 bA bB bC
  bD bE bF cA0 b1 b2 b3 b4 b5 b6 b7 b8 b9 bA bB bC bD bE bF cB0 b1 b2 b3 b4 b5 b6 b7 b8 b9 bA bB bC
  bD bE bF cC0 b1 b2 b3 b4 b5 b6 b7 b8 b9 bA bB bC bD bE bF cD0 b1 b2 b3 b4 b5 b6 b7 b8 b9 bA bB bC
  bD bE bF cE0 b1 b2 b3 b4 b5 b6 b7 b8 b9 bA bB bC bD bE bF cF0 b1 b2 b3 b4 b5 b6 b7 b8 b9 bA bB
  pITERATION_MARK sT_AND_BOLT lYIAKENG_PUACHUE_HMONG_CIRCLED_CA kDIGIT_EIGHT fFIVE dOUR eNINE eONE
  dSEVEN eIX dTHREE eWO dZERO kLETTER_A aA cCA cDA bLA dE aE cFA cGA cHA aH dI bKA cLA cMA bLA dNA
  bCA cKA cPA bLA dQA cRA cTA bSA cXA dYA dO aO cPA bLA dQA cRA bRA dSA cTA bSA cXA dU bVA cW bXA
  bYA dYA cZA iOGOGRAM_NYAJ nSIGN_FOR_ANIMAL gINVERTEBRATE mLOCATION iPERSON gTHING jXW_XW
  jYLLABLE_LENGTHENER tTONE-B bD bG bJ bM bS bV zeOBJECT_REPLACEMENT_CHARACTER
  zbLIQUE_ANGLE_OPENING_DOWN eUP qHYPHEN mSERVER_EYE_SYMBOL sCR_AMOUNT_OF_CHECK pBELT_BUCKLE kOW_TIE
  gRANCH_BANK_IDENTIFICATION zbCHAIR eUSTOMER_ACCOUNT_NUMBER xDASH dOUBLE_BACKSLASH qFORK eHOOK
  eINVERTED_FORK pTAGONAL_SIGN lOPUS gDEN dFFICE_BUILDING oGHAM_FEATHER_MARK mLETTER_AILM eBEITH
  fCEIRT eOLL eDAIR eEABHADH fDHADH fMHANCHOLL lFEARN fGORT eIFIN dODHADH hLUIS eMUIN eNGEADAL gION
  eONN cR cPEITH fRUIS eSAIL dTRAIF gTINNE fUATH dILLEANN hR jREVERSED_FEATHER_MARK vSPACE_MARK
  oONEK fHM_SIGN hIL_DRUM hK_HAND_SIGN lL_CHIKI_AHAD eDIGIT_EIGHT fFIVE dOUR eNINE eONE dSEVEN eIX
  dTHREE eWO dZERO kGAAHLAA_TTUDDAAG qLETTER_AAJ bK bM bW cG bL bNG cT cEDD cN bP bRR dIH bNY cR bS
  cLA aA cE bI bO bU cOB bH bTT cV cUC bD bNN cY jMU_TTUDDAG i-GAAHLAA_TTUDDAAG tPHAARKAA
  hUNCTUATION_DOUBLE_MUCAAD nMUCAAD sRELAA mD_CHINESE_HOOK_MARK jITERATION_MARK
  wHUNGARIAN_CAPITAL_LETTER_A aA bK bMB cND dCLOSE_E hE aB bC aH bS cD bE bF bG aY cH bJ bK bL aY cM
  aP cN aC bT a-SHAPED_SIGN nY cP bR bS aZ cT aY cV bZ aS dI aI cNIKOLSBURG_OE cUE nO aEE cO
  cRUDIMENTA_OE cUE mSHORT_ER iU aNK cS bU rNUMBER_FIFTY dVE eONE a_HUNDRED hTHOUSAND mTEN
  kSMALL_LETTER_A aA bK bMB cND dCLOSE_E hE aB bC aH bS cD bE bF bG aY cH bJ bK bL aY cM aP cN aC bT
  a-SHAPED_SIGN nY cP bR bS aZ cT aY cV bZ aS dI aI cNIKOLSBURG_OE cUE nO aEE cO cRUDIMENTA_OE cUE
  mSHORT_ER iU aNK cS bU zITALIC_LETTER_A bBE cCHE dDE cE aF bKS cL bM bN bR aS cS aH bS dHE cI aI
  cKA bE bHE cU cNORTHERN_TSE mO bPE bHE dSHE cOUTHERN_TSE mTE bHE dU aU cVE cYE cZE jNUMERAL_FIFTY
  dVE eONE dTEN sKEY dNORTH_ARABIAN_LETTER_AIN cLEF eBEH dDAD bL dES-1 b2 b3 eFEH dGEEM dHAIN fHAH
  cEH dKAF cHAH eLAM dMEEM eNOON eQAF dREH dSAD dTAH cEH cHAL cEH eWAW dYEH dZAH bIN lNUMBER_ONE
  dTEN cWENTY zcPERMIC_LETTER_AN cBUR dCHERY fDOI cZHOI dITA fE aF cGAI dHA cI aA bE cKOKE eLEI
  dMENOE fNENOE fO aO cPEEI eREI dSHCHOOI fOOI eII dTAI cSIU eU bVER cOOI eYA aT cER aI bU dRY cU
  cZATA dHOI pSIAN_NUMBER_HUNDRED hONE dTEN cWENTY eO kSIGN_A aURAMAZDAA a-2 cHA mBA aGA dUUMISH hCA
  cDA aHYAAUSH a-2 kI bU cFA cGA bU cHA cI bJA bI cKA bU cLA cMA bI bU cNA bU cPA cRA bU cSA bHA cSA
  dTA bHA cU cU bVA bI cXA bSHAAYATHIYA mYA cZA hWORD_DIVIDER qONAL_COMPUTER
  rSOGDIAN_FRACTION_ONE_HALF rLETTER_ALEPH dTERNATE_AYIN nYIN eBETH eFINAL_ALEPH fBETH eHE cNUN
  a_WITH_VERTICAL_TAIL wSADHE a_WITH_VERTICAL_TAIL yTAW a_WITH_VERTICAL_TAIL zdGIMEL fHE aTH eKAPH
  eLAMEDH gMEM dNUN dPE cRESH-AYIN-DALETH qSADHE dMEKH fHIN eTAW dWAW dYODH eZAYIN
  lIGATURE_AYIN-DALETH uNUMBER_FIVE dOUR eONE a_HUNDRED lTEN cHIRTY eREE eWENTY eO
  qUTH_ARABIAN_LETTER_ALEF dYN dBETH eDALETH fHADHE dLETH hFE cGHAYN eIMEL fHE aTH eKAPH dHETH
  fLAMEDH gMEM dNUN dQOPH eRESH eSADHE dMEKH eT cHIN eTAW cETH dHAW cETH fWAW dYODH eZAYN
  lNUMBER_FIFTY fONE hERIC_INDICATOR zgTURKIC_LETTER_ORKHON_A aB bD bEB bD bG bK bL bN bR bS bT bY
  cG bL bN bQ bR bS aH cT bY cBASH eEC bLT cM bNC bG bT bY cP bSH cZ cI aC bQ cO aE aK cP bQ bT
  jYENISEI_A aB bD bE aB bG bK bN aG cT bY cG bL bNG cQ bR bSH cT bY cE aC bNC bT bY cSH cZ cI aQ
  cOE aK cQ yUYGHUR_COMBINING_DOT_ABOVE fBELOW jTWO_DOTS_ABOVE fBELOW yLETTER_ALEPH fBETH
  eFINAL_HETH kGIMEL-HETH kKAPH eLAMEDH fESH eMEM dNUN dPE cRESH eSADHE dMEKH fHIN eTAW dWAW dYODH
  eZAYIN mPUNCTUATION_BAR dFOUR_DOTS jTWO_BARS eDOTS zdER_ADULT fMAN dWOMAN jIVE eM_SYMBOL
  iN_WITH_EXCLAMATION_MARK_WITH_LEFT_RIGHT_ARROW_ABOVE zzCOMING_AUTOMOBILE kBUS dFIRE_ENGINE
  lPOLICE_CAR kTAXI lE_BUTTON_MOUSE mDOT_LEADER gOVER_TWO_DOTS_PUNCTUATION zf-PIECE_SWIMSUIT qION
  ePEN_BOOK cX dCENTRE_ASTERISK iBLACK_STAR kCROSS fTEARDROP-SPOKED_ASTERISK zgFILE_FOLDER kOLDER
  gHANDS_SIGN kLOCK eMAILBOX_WITH_LOWERED_FLAG mRAISED_FLAG ySUBSET ePERSET
  j-CIRCUIT-OUTPUT_H-TYPE_SYMBOL nL-TYPE_SYMBOL zdOUTLINED_RIGHTWARDS_ARROW zcRATING_SYSTEM_COMMAND
  wHIUCHUS hPOSITION iTICAL_DISC a_ICON nON_KEY jR_WITH_DOT_INSIDE qANGE_BOOK eHEART hUTAN
  hIGINAL_OF iYA_AI_LENGTH_MARK nU_LENGTH_MARK oDIGIT_EIGHT fFIVE dOUR eNINE eONE dSEVEN eIX dTHREE
  eWO dZERO kFRACTION_ONE_EIGHTH gHALF eQUARTER hSIXTEENTH nTHREE_QUARTERS iSIXTEENTHS zISSHAR
  gLETTER_A aA bI bU cBA bHA dCA bHA dDA bDA bHA dHA dE bGA bHA dHA cI aI cJA bHA dKA bHA dLA bLA
  dMA cNA bGA cNA cYA dO bPA bHA dRA bHA cRA dSA bHA cSA dTA bHA cTA bHA eU aU cVA bOCALIC_L aL cR
  aR kWA cYA bYA kSIGN_ANUSVARA hVAGRAHA iCANDRABINDU lNUKTA fOVERLINE iVIRAMA eSARGA mVOWEL_SIGN_AA
  bI bU cE bI aI cO bU aU cVOCALIC_L aL cR aR zNATE_LEFT_PARENTHESIS qRIGHT_PARENTHESIS
  wTHODOX_CROSS nSAGE_CAPITAL_LETTER_A aH bI aN dBRA dCHA dDHA dE aHCHA dKA cPA cTA bSA eIN dGHA dHA
  bYA dI bKA bHA cYA dLA cMA cNA cO aIN dPA cSA bHA dTA bSA bHA eU bWA cZA bHA sSMALL_LETTER_A aH bI
  aN dBRA dCHA dDHA dE aHCHA dKA cPA cTA bSA eIN dGHA dHA bYA dI bKA bHA cYA dLA cMA cNA cO aIN dPA
  cSA bHA dTA bSA bHA eU bWA cZA bHA uC bMANYA_DIGIT_EIGHT fFIVE dOUR eNINE eONE dSEVEN eIX dTHREE
  eWO dZERO kLETTER_A aA bLEF eBA cCAYN eDEEL dHA dE aE cFA cGA cHA cI bJA cKAAF dHA dLAAN eMIIN
  eNUUN eO aO cQAAF eRA cSA bHIIN fTA cU bWAW dXA cYA qTTER cOMAN_SIYAQ_ALTERNATE_NUMBER_EIGHT fFIVE
  dOUR a_HUNDRED mNINE eSEVEN eIX a_HUNDRED lTEN a_THOUSAND lHREE eWO a_THOUSAND zeFRACTION_ONE_HALF
  eSIXTH sMARRATAN iNUMBER_EIGHT a_HUNDRED hTHOUSAND jY a_THOUSAND pFIFTY a_THOUSAND mVE a_HUNDRED
  hTHOUSAND mORTY a_THOUSAND mUR a_HUNDRED hTHOUSAND nNINE a_HUNDRED hTHOUSAND jTY a_THOUSAND pONE
  a_HUNDRED hTHOUSAND mSEVEN a_HUNDRED hTHOUSAND jTY a_THOUSAND pIX a_HUNDRED hTHOUSAND jTY
  a_THOUSAND oTEN a_THOUSAND lHIRTY a_THOUSAND nREE a_HUNDRED hTHOUSAND nWENTY a_THOUSAND nO
  a_HUNDRED hTHOUSAND zhUNCE_SIGN iTBOX_TRAY iLINED_BLACK_STAR kGREEK_CROSS lLATIN_CROSS lWHITE_STAR
  sVERHEATED_FACE lLAP aPING_BLACK_SQUARES nWHITE_AND_BLACK_SQUARES rSQUARES uINE hWL cX bYSTER
  gPACKAGE fD aDING_CHARACTER pGE a_FACING_UP jWITH_CIRCLED_TEXT lURL kR bS cODA
  eHAWH_HMONG_CLAN_SIGN_FAJ dHAM bWJ eKHAB dOO cWM dLAUJ dIS dMUAS ePHAB eTHOJ dSAB cHEEJ eWB eVAJ
  cWJ dXYOOJ fYAJ cEEG nONSONANT_AU cCAU cHAU eHAU cLAU dNAU eLAU dMAU dNAU cCHAU eKAU dLAU dTHAU
  dSAU fPLHAU fQHAU eRAU dVAU dXAU dYAU nDIGIT_EIGHT fFIVE dOUR eNINE eONE dSEVEN eIX dTHREE eWO
  dZERO kMARK_CIM_HOM dKES cHAV eSO bUAM eTAUM dUB mNUMBER_HUNDRED_MILLIONS jS iMILLIONS
  iTEN_BILLIONS iTHOUSANDS kS dRILLIONS qSIGN_AV cCIM_CHEEM eUAM_TSHOOJ lHAIS_LUS_NTOG_NTOG
  sNRES_TOS iPUB_DAWB iTSOV_ROG hXWV a_CHWV nHLI cNUB eIB_YAM gLOS dMEEJ_SUAB eTSEEB jUS dNQIG dTUJ
  eTAU cHIRD-STAGE_HLI oXHEEJ_CEEV lVOS_FEEM eLUB dNRUA eSEEV eTHIAB dOM dSHAB_CEEB oXAUS dIAB
  dYEEM_FAIB eNTXIV fRHO dTOV hOO eZWJ_THAJ nVOWEL_KAAB bV cB bIB bV cUB bV cV bWB bV dEB bEB bV cV
  cIAB bV cB bV cOB bOB bV cV cUAB bV cB bV cWB bV uLLAS dM_BRANCH gDOWN_HAND jTREE eUP_HAND
  iS_UP_TOGETHER nYRENE_LEFT-POINTING_FLEURON tTTER_ALEPH eYIN eBETH eDALETH gFINAL_NUN jGIMEL fHE
  aTH eKAPH eLAMEDH gMEM dNUN dPE cQOPH eRESH eSADHE dMEKH fHIN eTAW cETH eWAW dYODH eZAYIN
  mNUMBER_FIVE dOUR eONE dTEN cHREE eWENTY eO kRIGHT-POINTING_FLEURON zfNCAKES fDA_FACE iPERCLIP
  hRACHUTE fGRAPH_SEPARATOR kOS cUS_MARK mLLEL_TO cWITH_HORIZONTAL_STROKE rTILDE_OPERATOR
  zENTHESIZED_DIGIT_EIGHT fFIVE dOUR eNINE eONE dSEVEN eIX dTHREE eWO jHANGUL_CHIEUCH a_A iIEUC a_A
  bU hHIEUH a_A hIEUNG a_A hKHIEUKH a_A iIYEOK a_A iMIEUM a_A hNIEUN a_A hPHIEUPH a_A iIEUP a_A
  hRIEUL a_A hSIOS a_A gTHIEUTH a_A iIKEUT a_A pIDEOGRAPH_ALLIANCE iCALL dONGRATULATION oEARTH eIGHT
  eNTERPRISE kFESTIVAL hINANCIAL hRE cVE dOUR eHAVE eLABOR fMETAL eOON eNAME dINE eONE dREACH
  dPRESENT hSOURCE fT eSELF cVEN eIX cOCIETY gPECIAL gTOCK dUDY eUN bPERVISE jTEN cHREE eWO dWATER
  eOOD oKOREAN_CHARACTER_O_HU dJEON wLATIN_CAPITAL_LETTER_A bB bC bD bE bF bG bH bI bJ bK bL bM bN
  bO bP bQ bR bS bT bU bV bW bX bY bZ qSMALL_LETTER_A bB bC bD bE bF bG bH bI bJ bK bL bM bN bO bP
  bQ bR bS bT bU bV bW bX bY bZ uNUMBER_EIGHTEEN hLEVEN gFIFTEEN gOURTEEN iNINETEEN iSEVENTEEN
  iIXTEEN hTEN cHIRTEEN hWELVE dNTY yROT dT_ALTERNATION_MARK rIAL_DIFFERENTIAL mLINE_BACKWARD iDOWN
  eFORWARD hUP iLY-RECYCLED_PAPER_SYMBOL zcNERSHIP_SIGN mY_POPPER kSSED_SYMBOL iNGER_SHIP
  kIVE-PULL-DOWN-OUTPUT_SYMBOL sUP-OUTPUT_SYMBOL zPORT_CONTROL oU_CIN_HAU_GLOTTAL_STOP a_FINAL
  fVARIANT uLETTER_A bBA cCA bHA dDA cE bFA bINAL_K bL bM bN aG cP bT bW bY hGA cHA cI aA cKA bHA
  dLA cMA cNA bGA dO bPA bHA dRA cSA cTA bHA dU aA cVA cZA iOW-FALLING_TONE a_FINAL fLONG a_FINAL
  zcMID-LEVEL_TONE a_FINAL fLONG_FINAL zRISING_TONE a_FINAL fLONG a_FINAL wSANDHI_GLOTTAL_STOP
  a_FINAL sTONE a_FINAL fLONG a_FINAL zhW_PRINTS jDF bI cEACE_SYMBOL iH bOCK eNUTS eR cDESTRIAN
  iN_OVER_STAMPED_ENVELOPE wCIL dGUIN eSIVE_FACE jTAGRAM hOPLE_HUGGING mR_MILLE_SIGN kSIGN
  eTEN_THOUSAND_SIGN sCENT_SIGN jFORMING_ARTS mMANENT_PAPER_SIGN rPENDICULAR a_WITH_S rSEVERING_FACE
  mON_BOWING_DEEPLY nCLIMBING iDOING_CARTWHEEL pFROWNING iIN_LOTUS_POSITION oSTEAMY_ROOM
  oRAISING_BOTH_HANDS_IN_CELEBRATION ziWITH_BALL dLOND_HAIR kCROWN fFOLDED_HANDS mHEADSCARF
  jPOUTING_FACE sAL_COMPUTER nPECTIVE jSETA_SIGN iO_SIGN hTRI_DISH jHAGS-PA_DOUBLE_HEAD_MARK
  qLETTER_A aLTERNATE_YA lSPIRATED_FA mBA cCA aNDRABINDU kHA dDA bDA cZA dE aE cFA cGA bGA dHA cI
  bJA cKA bHA dLA cMA cNA bGA cNA cYA dO bPA bHA dQA cRA cSA bHA cMALL_A hTA bHA cSA bHA dTA bHA eU
  bVOICED_HA eLESS_SHA nWA cXA cYA cZA bHA kMARK_DOUBLE_SHAD lSHAD jSINGLE_HEAD_MARK
  pUBJOINED_LETTER_RA cWA cYA rPERFIXED_LETTER_RA zbISTOS_DISC_SIGN_ARROW fBEE aHIVE gOOMERANG hW
  cULLS_LEG jCAPTIVE fRPENTRY_PLANE nT cHILD eLUB dOLUMN eMB aINING_OBLIQUE_STROKE yDOLIUM eVE
  eEAGLE fFLUTE fGAUNTLET hRATER gHELMET fIDE dORN eLID bLY eMANACLES gTTOCK hOX_BACK hPAPYRUS
  gEDESTRIAN jLANE_TREE iUMED_HEAD lRAM cOSETTE hSAW cHIELD dP dLING eMALL_AXE iTRAINER
  iTATTOOED_HEAD mIARA eUNNY fVINE eWAVY_BAND iOMAN wILIPPINE_DOUBLE_PUNCTUATION sSINGLE_PUNCTUATION
  zcOENICIAN_LETTER_AIN cLF dBET dDELT eGAML eHE aT dKAF dLAMD eMEM dNUN dPE cQOF dROSH eSADE dEMK
  dHIN eTAU cET dWAU dYOD dZAI kNUMBER_ONE a_HUNDRED lTEN cHREE eWENTY eO kWORD_SEPARATOR wLUS fICK
  aUP_TRUCK kE bG a_FACE eNOSE gLCROW_SIGN jE_OF_POO iL cNATA dCHED_FINGERS kING_HAND kE_DECORATION
  lAPPLE gWHEEL_STAR lSCES dTOL eTCHFORK a_WITH_TEE_TOP vLACARD dE_OF_INTEREST_SIGN nWORSHIP
  nNCK_CONSTANT a_OVER_TWO_PI yYGROUND_SLIDE mING_CARD_ACE_OF_CLUBS fDIAMONDS iHEARTS gSPADES nBACK
  dLACK_JOKER lEIGHT_OF_CLUBS fDIAMONDS iHEARTS gSPADES pFIVE_OF_CLUBS fDIAMONDS iHEARTS gSPADES
  nOOL cUR_OF_CLUBS fDIAMONDS iHEARTS gSPADES oJACK_OF_CLUBS fDIAMONDS iHEARTS gSPADES
  oKING_OF_CLUBS fDIAMONDS iHEARTS gSPADES nNIGHT_OF_CLUBS fDIAMONDS iHEARTS gSPADES qNINE_OF_CLUBS
  fDIAMONDS iHEARTS gSPADES oQUEEN_OF_CLUBS fDIAMONDS iHEARTS gSPADES pRED_JOKER jSEVEN_OF_CLUBS
  fDIAMONDS iHEARTS gSPADES oIX_OF_CLUBS fDIAMONDS iHEARTS gSPADES nTEN_OF_CLUBS fDIAMONDS iHEARTS
  gSPADES mHREE_OF_CLUBS fDIAMONDS iHEARTS gSPADES oRUMP-1 a0 b1 b2 b3 b4 b5 b6 b7 b8 b9 c2 a0 b1 c3
  b4 b5 b6 b7 b8 b9 gWO_OF_CLUBS fDIAMONDS iHEARTS gSPADES nWHITE_JOKER wD bU aNGER eS_SIGN
  a_ABOVE_EQUALS_SIGN rIN_LEFT_HALF_CIRCLE qRIGHT_HALF_CIRCLE rTRIANGLE lWITH_BLACK_TRIANGLE
  oCIRCUMFLEX_ACCENT_ABOVE xDOT_BELOW jSMALL_CIRCLE_ABOVE rUBSCRIPT_TWO nTILDE_ABOVE fBELOW
  w-MINUS_SIGN mTO a_FORM_FIVE dOUR eTHREE eWO nM bOCKET_CALCULATOR pLICE_CAR aS_REVOLVING_LIGHT
  uOFFICER mODLE eP_DIRECTIONAL_FORMATTING kISOLATE uCORN fRTABLE_STEREO nSEIDON fITION_INDICATOR
  pTAL_HORN eMARK a_FACE mBOX fT_OF_FOOD iABLE_WATER_SYMBOL qTO dTED_PLANT kUCH cLTRY_LEG iND_SIGN
  hRING_LIQUID lTING_CAT_FACE iFACE kWER_ON_SYMBOL h-OFF_SYMBOL nSLEEP_SYMBOL lYMBOL lRAYER_BEADS
  kECEDES a_ABOVE_ALMOST_EQUAL_TO pEQUALS_SIGN lNOT_ALMOST_EQUAL_TO pEQUAL_TO
  mSINGLE-LINE_EQUALS_SIGN lNOT_EQUAL_TO zfBUT_NOT_EQUIVALENT_TO vOR_EQUAL_TO fIVALENT_TO
  qUNDER_RELATION uGNANT_MAN dPERSON gWOMAN lSCRIPTION_TAKE nENTATION_FORM_FOR_VERTICAL_COLON dMMA
  fEM_DASH gN_DASH gXCLAMATION_MARK qHORIZONTAL_ELLIPSIS tIDEOGRAPHIC_COMMA fFULL_STOP
  vLEFT_ANGLE_BRACKET nBLACK_LENTICULAR_BRACKET yCORNER_BRACKET nURLY_BRACKET nDOUBLE_ANGLE_BRACKET
  uPARENTHESIS lSQUARE_BRACKET oTORTOISE_SHELL_BRACKET wWHITE_CORNER_BRACKET oLENTICULAR_BRACKET
  zdOW_LINE iQUESTION_MARK nRIGHT_ANGLE_BRACKET nBLACK_LENTICULAR_BRACKET yCORNER_BRACKET
  nURLY_BRACKET nDOUBLE_ANGLE_BRACKET uPARENTHESIS lSQUARE_BRACKET oTORTOISE_SHELL_BRACKET
  wWHITE_CORNER_BRACKET oLENTICULAR_BRACKET eKCET zfSEMICOLON jTWO_DOT_LEADER oWAVY_LOW_LINE zqTZEL
  eVIOUS_PAGE lIME cNCE aSS eT_SCREEN_SYMBOL oER a_ICON jVACY_MESSAGE kTE_USE_ONE dTWO e-1 b2
  lOBING_CANE jHIBITED_SIGN mJECTIVE hPERTY_LINE jORTION aAL_TO mSERPINA
  jSALTER_PAHLAVI_FOUR_DOTS_WITH_CROSS fDOT sLETTER_ALEPH fBETH eDALETH gGIMEL fHE aTH eKAPH eLAMEDH
  gMEM-QOPH iNUN dPE cSADHE dMEKH fHIN eTAW dWAW-AYIN-RESH nYODH eZAYIN mNUMBER_FOUR eONE a_HUNDRED
  lTEN cHREE eWENTY eO kSECTION_MARK mTURNED_SECTION_MARK zjU1 b2 bBLIC_ADDRESS_LOUDSPEAKER
  yNCTUATION_SPACE lS_ELEVATUS_MARK tRPLE_HEART jSE dSHPIN fT_LITTER_IN_ITS_PLACE_SYMBOL
  zfQUADRANT_LOWER_LEFT eRIGHT lUPPER_LEFT a_AND_LOWER_LEFT_AND_LOWER_RIGHT uRIGHT
  lUPPER_RIGHT_AND_LOWER_LEFT eRIGHT zlRIGHT a_AND_LOWER_LEFT a_AND_LOWER_RIGHT
  zvUPLE_INTEGRAL_OPERATOR rPRIME mRTER_NOTE jTERNION_INTEGRAL_OPERATOR zbESTION_EXCLAMATION_MARK
  qMARK fED_EQUAL_TO rINCUNX gOTATION_MARK oRABBIT a_FACE jCCOON eING_CAR dMOTORCYCLE
  pDICAL_SYMBOL_BOTTOM rO a_BUTTON hACTIVE_SIGN oILWAY_CAR dTRACK kN aBOW eSED_BACK_OF_HAND mCOMMA
  fDOT aTED_INTERPOLATION_MARKER zcFIST eHAND a_WITH_FINGERS_SPLAYED
  pPART_BETWEEN_MIDDLE_AND_RING_FINGERS zvINTERPOLATION_MARKER uMC_SIGN gD_SIGN gR_SIGN hSQUARE lM
  bT aIO dZOR eECEIPT eORD_SEPARATOR nREATIONAL_VEHICLE rYCLED_PAPER_SYMBOL
  pING_SYMBOL_FOR_GENERIC_MATERIALS rTYPE-1_PLASTICS k2_PLASTICS k3_PLASTICS k4_PLASTICS k5_PLASTICS
  k6_PLASTICS k7_PLASTICS zjD_APPLE fGIFT_ENVELOPE pFERENCE_MARK mGIONAL_INDICATOR_SYMBOL_LETTER_A
  bB bC bD bE bF bG bH bI bJ bK bL bM bN bO bP bQ bR bS bT bU bV bW bX bY bZ zfSTERED_SIGN
  nJANG_CONSONANT_SIGN_H bN aG cR qLETTER_A bBA cCA cDA cGA cHA cJA cKA cLA cMA bBA dNA bDA cGA bGA
  dYA bJA ePA cRA cSA cTA cWA cYA jSECTION_MARK mVIRAMA fOWEL_SIGN_AI bU cE aA bU cI bO bU
  rLIEVED_FACE lMINDER_RIBBON nPLACEMENT_CHARACTER tSPONSE fTRICTED_LEFT_ENTRY-1 b2 sOOM gTURN_LEFT
  eRIGHT fSYMBOL lVERSE_CHECKER_BOARD nINDEX fLIGHT_FOUR_POINTED_PINWHEEL_STAR zfNE_FEED jSOLIDUS
  a_OPERATOR iPRECEDING_SUBSET qWITH_HORIZONTAL_STROKE zfTILDE_OPERATOR_ABOVE_LEFTWARDS_ARROW
  pRIGHTWARDS_ARROW znD_ANGLE a_WITH_UNDERBAR tCOMMA fDOUBLE_PRIME a_QUOTATION_MARK uSTROKE_NOT_SIGN
  wEMPTY_SET jFORKED_PARAGRAPHOS sHAND_WITH_MIDDLE_FINGER_EXTENDED zhNOT_SIGN iPILCROW_SIGN lRIME
  fQUESTION_MARK nRAISED_HAND_WITH_FINGERS_SPLAYED zgIGHT_ANGLE kOTATED_FLORAL_HEART_BULLET
  zcSANS-SERIF_CAPITAL_L tEMICOLON jTHUMBS_DOWN_SIGN jUP_SIGN nILDE a_EQUALS lRIPLE_PRIME
  mVICTORY_HAND sOLVING_HEARTS pHINOCEROS jI aAL_SIGN hBBON a_ARROW_DOWN_LEFT eRIGHT kLEFT_DOWN eUP
  hRIGHT_DOWN eUP iUP_LEFT eRIGHT tCE_BALL eCRACKER kFLE dGHT_AND_LOWER_ONE_EIGHTH_BLOCK
  wUPPER_ONE_EIGHTH_BLOCK yGER_BUBBLE jLE a_BRACKET a_WITH_DOT qDOTTED_SUBSTITUTION_MARKER
  zbSUBSTITUTION_MARKER tVARIANT_WITH_SQUARE tWITH_ARC dDOWNWARDS_ZIGZAG_ARROW
  zhRC_GREATER-THAN_BRACKET wROW_WITH_CIRCLED_PLUS mSMALL_CIRCLE xBLACK_LENTICULAR_BRACKET
  sTORTOISE_SHELL_BRACKET zdCEILING gORNER_BRACKET nURLY_BRACKET a_LOWER_HOOK kMIDDLE_PIECE
  mUPPER_HOOK yDOTTED_SUBSTITUTION_BRACKET zUBLE_ANGLE_BRACKET mRROW_WITH_ROUNDED_HEAD xPARENTHESIS
  lQUOTATION_MARK oWIGGLY_FENCE tFISH_TAIL hVE_EIGHTHS_BLOCK rLOOR fHALF_BLACK_CIRCLE gSTAR iOCK
  fFOLDER gMEDIUM_SHADE mRUNNING_MAN oND_TELEPHONE_RECEIVER xLOW_PARAPHRASE_BRACKET
  wNORMAL_FACTOR_SEMIDIRECT_PRODUCT zhONE_EIGHTH_BLOCK mQUARTER_BLOCK qPEN_SQUARED_DOT pUTER_JOIN
  kPARENTHESIS a_EXTENSION jLOWER_HOOK kUPPER_HOOK wRAISED_OMISSION_BRACKET xS-SHAPED_BAG_DELIMITER
  vEMIDIRECT_PRODUCT qVEN_EIGHTHS_BLOCK sIDEWAYS_U_BRACKET qNGLE_QUOTATION_MARK uPEAKER
  a_WITH_ONE_SOUND_WAVE oTHREE_SOUND_WAVES zcECH_BUBBLE mQUARE_BRACKET a_EXTENSION jLOWER_CORNER
  mUPPER_CORNER mWITH_DOUBLE_STROKE nQUILL fSTROKE gTICK_IN_BOTTOM_CORNER nTOP_CORNER sUNDERBAR
  zcUBSTITUTION_BRACKET uTACK dHIRD_WHITE_RIGHT_POINTING_INDEX zfOUGHT_BUBBLE mREE_EIGHTHS_BLOCK
  nQUARTERS_BLOCK tORTOISE_SHELL_BRACKET vRANSPOSITION_BRACKET tIANGLE a_ABOVE_LEFT_TRIANGLE
  wULAR_ONE_QUARTER_BLOCK zdVERTICAL_BAR_WITH_QUILL nOX_LINE rWHITE_CORNER_BRACKET nURLY_BRACKET
  nLENTICULAR_BRACKET sPARENTHESIS lSQUARE_BRACKET oTORTOISE_SHELL_BRACKET zcIGGLY_FENCE
  n-FACING_ARMENIAN_ETERNITY_SIGN wFIST eSVASTI_SIGN a_WITH_DOTS zdHANDED_INTERLACED_PENTAGRAM
  zcPOINTING_ANGLE_BRACKET nCURVED_ANGLE_BRACKET uDOUBLE_ANGLE_QUOTATION_MARK zcMAGNIFYING_GLASS
  zSHADED_WHITE_RIGHTWARDS_ARROW zdIDE_ARC_CLOCKWISE_ARROW yTO-LEFT_EMBEDDING jISOLATE hMARK
  eOVERRIDE rHAND_INTERIOR_PRODUCT vWARDS_ARROW a_ABOVE_ALMOST_EQUAL_TO pREVERSE_ALMOST_EQUAL_TO
  pTILDE_OPERATOR wSHORT_LEFTWARDS_ARROW vTILDE_OPERATOR tND_UPPER_AND_LOWER_ONE_EIGHTH_BLOCK
  zlFROM_BAR a_TO_BLACK_DIAMOND zOVER_LEFTWARDS_ARROW uTHROUGH_GREATER-THAN mSUPERSET iX iO_BAR
  cLACK_DIAMOND qWITH_CORNER_DOWNWARDS qDOTTED_STEM jUBLE_VERTICAL_STROKE wEQUILATERAL_ARROWHEAD
  vHOOK eLARGE_TRIANGLE_ARROWHEAD xOOP eMEDIUM_TRIANGLE_ARROWHEAD zNOTCHED_TAIL mPLUS_BELOW
  kSMALL_EQUILATERAL_ARROWHEAD vTRIANGLE_ARROWHEAD xTROKE gTAIL a_WITH_DOUBLE_VERTICAL_STROKE
  wVERTICAL_STROKE yIP_DOWNWARDS jUPWARDS lVERTICAL_STROKE v-TAIL kBACK-TILTED_SHADOWED_WHITE_ARROW
  zgLACK_ARROW fCIRCLED_WHITE_ARROW yOTTOM_SHADED_WHITE_ARROW zCOMPRESSED_ARROW qDASHED_ARROW
  lOUBLE_ARROW a_FROM_BAR iWITH_STROKE gVERTICAL_STROKE v-TAIL kDASH_ARROW rFINGER-POST_ARROW
  qRONT-TILTED_SHADOWED_WHITE_ARROW ziHAND cRPOON_OVER_LEFTWARDS_HARPOON
  wWITH_BARB_DOWN_ABOVE_LEFTWARDS_HARPOON_WITH_BARB_DOWN znBELOW_LONG_DASH pFROM_BAR iTO_BAR hWARDS
  jUP_ABOVE_LEFTWARDS_HARPOON_WITH_BARB_UP zeONG_DASH jRIGHTWARDS_HARPOON_WITH_BARB_DOWN zoFROM_BAR
  iTO_BAR hWARDS yEAVY_ARROW fCOMPRESSED_ARROW wLEFT-SHADED_WHITE_ARROW xOPEN-HEADED_ARROW
  rPAIRED_ARROWS nQUADRUPLE_ARROW pRIGHT-SHADED_WHITE_ARROW xOCKET gSANS-SERIF_ARROW pQUARED_ARROW
  kIGGLE_ARROW oTOP_SHADED_WHITE_ARROW vRIANGLE_ARROWHEAD k-HEADED_ARROW
  a_OVER_LEFTWARDS_TRIANGLE-HEADED_ARROW zlTO_BAR gWITH_BOLD_SHAFT kDOUBLE_HORIZONTAL_STROKE
  rVERTICAL_STROKE wHEAVY_SHAFT lLONG_TIP_DOWNWARDS jUPWARDS qMEDIUM_SHAFT mNARROW_SHAFT
  mVERY_HEAVY_SHAFT zcDASHED_ARROW mPAIRED_ARROWS zbPLE_ARROW fDASH_ARROW qWO_HEADED_ARROW
  n-HEADED_ARROW_FROM_BAR iWITH_DOUBLE_VERTICAL_STROKE wTAIL a_WITH_DOUBLE_VERTICAL_STROKE
  wVERTICAL_STROKE yRIANGLE_ARROWHEADS tVERTICAL_STROKE zbTRIPLE_DASH_ARROW zdWAVE_ARROW jHITE_ARROW
  a_FROM_WALL jWITHIN_TRIANGLE_ARROWHEAD zvNG a_ABOVE fBUOY eEQUAL_TO iIN_EQUAL_TO lOPERATOR iPOINT
  gED_PLANET jING_BELL kSING_DIAGONAL_CROSSING_FALLING_DIAGONAL qSOUTH_EAST_ARROW zpLE bI bM bO
  cOASTED_SWEET_POTATO sBOT_FACE iCK aET eLL_OF_PAPER jED-UP_NEWSPAPER oR_COASTER hSKATE
  iING_ON_THE_FLOOR_LAUGHING zcMAN_AS_SIGN hCENTURIAL_SIGN oDENARIUS_SIGN mIMIDIA_SEXTULA_SIGN
  tUPONDIUS_SIGN oNUMERAL_EIGHT eLEVEN gFIFTY a_EARLY_FORM kTHOUSAND mVE a_HUNDRED hTHOUSAND mOUR
  eNINE eONE a_HUNDRED a_THOUSAND qTHOUSAND a_C_D qREVERSED_ONE_HUNDRED uSEVEN eIX a_LATE_FORM nTEN
  a_THOUSAND lHREE eWELVE eO lQUINARIUS_SIGN oSEMUNCIA_SIGN lSTERTIUS_SIGN nXTANS_SIGN iULA_SIGN
  lILIQUA_SIGN mUNCIA_SIGN oOSTER fSE aTTE fTATED_CAPITAL_Q jFLORAL_HEART_BULLET
  tHEAVY_BLACK_HEART_BULLET yLIGHT_FOUR_POINTED_BLACK_CUSP zeWHITE_FOUR_POINTED_CUSP zeUND_PUSHPIN
  hTARGET hED_SYMBOL_FOR_CAI dFU cLU cSHOU cUANGXI iXI tWBOAT gS bUBLE_SIGN iGBY_FOOTBALL
  mLE-DELAYED kMI_DIGIT_EIGHT fFIVE dOUR eNINE eONE dSEVEN eIX dTHREE eWO jFRACTION_ONE_HALF
  eQUARTER hTHIRD jTWO_THIRDS tNUMBER_EIGHT_HUNDRED iY gFIFTY dVE_HUNDRED lORTY dUR_HUNDRED
  mNINE_HUNDRED iTY gONE_HUNDRED lSEVEN_HUNDRED iTY gIX_HUNDRED iTY fTEN cHIRTY eREE_HUNDRED mWENTY
  eO_HUNDRED vNIC_ARLAUG_SYMBOL nBELGTHOR_SYMBOL pCROSS_PUNCTUATION rLETTER_AC_A dESC dLGIZ_EOLHX
  kNSUZ_A hBERKANAN_BEORC_BJARKAN_B yC aALC dEALC dN cWEORTH hD aAGAZ_DAEG_D lOTTED-L bN bP iE aAR
  cHWAZ_EH_E jNG cTH dFEHU_FEOH_FE_F nRANKS_CASKET_AC bESC eEH cIS cOS qG aAR cEBO_GYFU_G jR
  dHAEGL_H fGLAZ_H iICELANDIC-YR lNG aWAZ fOR cSAZ_IS_ISS_I mWAZ_EOH iJERAN_J hK aAUN_K cA
  fLAUKAZ_LAGU_LOGR_L rONG-BRANCH-AR_AE fHAGALL_H iMADR_M gOSS_O fYR oMANNAZ_MAN_M
  mNAUDIZ_NYD_NAUD_N rO aE bN bO bPEN-P fS_O dTHALAN_ETHEL_O pPERTHO_PEORTH_P pQ bRAIDO_RAD_REID_R
  qSH aORT-TWIG-AR_A eBJARKAN_B jHAGALL_H iMADR_M gNAUD_N gOSS_O fSOL_S fTYR_T fYR
  mIGEL_LONG-BRANCH-SOL_S wOWILO_S hTAN eTHURISAZ_THURS_THORN tIWAZ_TIR_TYR_T pURUZ_UR_U jV bW
  aUNJO_WYNN_W mX bY aR cZ iMULTIPLE_PUNCTUATION uSINGLE_PUNCTUATION sTVIMADUR_SYMBOL sNER
  cING_SHIRT_WITH_SASH vPEE_SIGN iSSIAN_ASTROLOGICAL_SYMBOL_BINOVILE iNOVILE gQUINTILE iSENTAGON
  iTREDECILE jVIGINTILE"⟩

end LineCalc.Text
